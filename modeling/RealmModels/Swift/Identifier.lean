import RealmModels.Naming.Scope

namespace RealmModels.Swift

def reservedWords : List String :=
  ["associatedtype", "class", "deinit", "enum", "extension", "fileprivate", "func", "import",
   "init", "inout", "internal", "let", "open", "operator", "private", "protocol", "public",
   "static", "struct", "subscript", "typealias", "var",
   "break", "case", "continue", "default", "defer", "do", "else", "fallthrough", "for", "guard",
   "if", "in", "repeat", "return", "switch", "where", "while",
   "as", "Any", "catch", "false", "is", "nil", "rethrows", "super", "self", "Self", "throw",
   "throws", "true", "try",
   "associativity", "convenience", "dynamic", "didSet", "final", "get", "infix", "indirect",
   "lazy", "left", "mutating", "none", "nonmutating", "optional", "override", "postfix",
   "precedence", "prefix", "Protocol", "required", "right", "set", "Type", "unowned", "weak",
   "willSet"]

def isReserved (name : String) : Bool := reservedWords.contains name

def escapeIdentifier (name : String) : String :=
  if isReserved name then "`" ++ name ++ "`" else name

def naming : Naming.Policy := ⟨reservedWords, [.text "`", Naming.namePiece, .text "`"]⟩

end RealmModels.Swift
