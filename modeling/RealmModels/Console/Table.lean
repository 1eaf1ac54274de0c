import RealmModels.Console.Markup
import RealmModels.Console.Wrap
import RealmModels.Text.Search

namespace RealmModels.Console

open Text

structure Table where
  title : String
  head : String × String
  rows : List (String × String)

namespace Table

def widest (cs : List Char) : Nat := ((splitLines false [] cs).map width).foldl max 0

def frameWidth : Nat := 7

def line (left right : Nat) (a b : List Char) : List Char :=
  trimEnd (spaces 2 ++ padded left a ++ spaces 3 ++ padded right b)

def rowLines (left right : Nat) (a b : List Char) : List (List Char) :=
  let as := wrap .ellipsis left a
  let bs := wrap .ellipsis right b
  (List.range (max as.length bs.length)).map fun i =>
    line left right (as[i]?.getD []) (bs[i]?.getD [])

def centred (n : Nat) (cs : List Char) : List Char := spaces ((n - width cs) / 2) ++ cs

def plainRow (row : String × String) : Except MarkFault (List Char × List Char) := do
  return (← plain row.1, ← plain row.2)

def render (limit : Nat) (t : Table) : Except MarkFault (List (List Char)) := do
  let head ← plainRow t.head
  let rows ← t.rows.mapM plainRow
  let left := ((head :: rows).map fun r => widest r.1).foldl max 0
  let wanted := ((head :: rows).map fun r => widest r.2).foldl max 0
  let right := min wanted (limit - left - frameWidth)
  let rule := ' ' :: List.replicate (left + right + frameWidth - 2) '─'
  let title ← plain t.title
  let rows := rows.flatMap fun r => rowLines left right r.1 r.2
  return [centred (left + right + frameWidth) title, []] ++ rowLines left right head.1 head.2 ++
    [rule] ++ rows ++ [[]]

end Table

end RealmModels.Console
