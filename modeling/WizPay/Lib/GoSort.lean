import Mathlib

/-!
# Sorted slices

`sort.Slice` by a text key and `sort.Search`. Texts are ordered by their code points.
-/
namespace GoSort

variable {α : Type} (key : α → String)

/-- `sort.Slice(items, func(i, j) { return key(items[i]) < key(items[j]) })`. -/
def sortBy (items : List α) : List α := items.insertionSort fun a b => key a ≤ key b

/-- The loop of `sort.Search`; the interval shrinks in every round, so its length is fuel enough. -/
def searchLoop (holds : Nat → Bool) : Nat → Nat → Nat → Nat
  | 0, low, _ => low
  | fuel + 1, low, high =>
    if low < high then
      let middle := (low + high) / 2
      if holds middle then searchLoop holds fuel low middle else searchLoop holds fuel (middle + 1) high
    else low

/-- `sort.Search(n, holds)`. -/
def search (n : Nat) (holds : Nat → Bool) : Nat := searchLoop holds n 0 n

/-- The lookup of a key in a slice that was sorted by it. -/
def contains (items : List α) (target : String) : Bool :=
  let index := search items.length fun i => (items[i]?).any fun item => target ≤ key item
  (items[index]?).any fun item => key item = target

/-- Items with consecutive equal keys are kept once. -/
def dedupBy : List α → List α
  | [] => []
  | item :: rest =>
    match dedupBy rest with
    | [] => [item]
    | next :: others => if key item = key next then item :: others else item :: next :: others

end GoSort
