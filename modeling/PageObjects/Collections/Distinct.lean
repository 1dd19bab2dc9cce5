/-!
# Lists without repeats

`List.firstOccurrences` keeps the first occurrence of each item of a list, in
order. Import lists and the merge of several of them are built with it.
-/

namespace List

/-- Appends an item unless it is already present. -/
def appendNew {α : Type} [BEq α] (seen : List α) (item : α) : List α :=
  if seen.contains item then seen else seen ++ [item]

/-- The first occurrence of each item, in order. -/
def firstOccurrences {α : Type} [BEq α] (items : List α) : List α :=
  items.foldl appendNew []

/-- The first item that repeats one seen before it or one of `seen`, scanning
from the front. -/
def firstRepeatAfter {α : Type} [BEq α] (seen : List α) : List α → Option α
  | [] => none
  | item :: rest => if seen.contains item then some item else firstRepeatAfter (item :: seen) rest

/-- The first item that occurs twice, if any, scanning from the front. -/
def firstRepeat? {α : Type} [BEq α] (items : List α) : Option α :=
  firstRepeatAfter [] items

end List
