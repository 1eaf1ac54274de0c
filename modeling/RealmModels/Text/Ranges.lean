namespace RealmModels.Text

def inRanges : List (Nat × Nat) → Nat → Bool
  | [], _ => false
  | (first, last) :: ranges, n => first ≤ n && (n ≤ last || inRanges ranges n)

end RealmModels.Text
