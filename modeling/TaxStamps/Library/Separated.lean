import Mathlib.Data.List.Forall2

/-!
# Reading a separated sequence

A reader of elements gives a reader of sequences: element, separator, element,
and so on up to a closing mark, with blanks skipped around the marks. When the
reader takes the text of each element back, the sequence reader takes the joined
texts back. The count bounds the number of elements, which no text exceeds by
its length.
-/

namespace Separated

variable {Mark Element : Type} [DecidableEq Mark]

/-- Reads the elements up to the closing mark, and what follows it. -/
def read (skip : List Mark → List Mark) (separator close : Mark)
    (element : List Mark → Option (Element × List Mark)) :
    Nat → List Mark → Option (List Element × List Mark)
  | 0, _ => none
  | count + 1, text =>
    match element text with
    | none => none
    | some (first, rest) =>
      match skip rest with
      | [] => none
      | mark :: rest =>
        if mark = close then some ([first], rest)
        else if mark = separator then
          (read skip separator close element count (skip rest)).map
            (fun others => (first :: others.1, others.2))
        else none

variable {skip : List Mark → List Mark} {separator close : Mark}
  {element : List Mark → Option (Element × List Mark)} {ends : List Mark → Prop}

/-- The text reads as the element before anything that may follow one. -/
def Reads (element : List Mark → Option (Element × List Mark)) (ends : List Mark → Prop)
    (text : List Mark) (value : Element) : Prop :=
  ∀ tail, ends tail → element (text ++ tail) = some (value, tail)

/-- The marks end an element and are no blanks. -/
structure Marks (skip : List Mark → List Mark) (separator close : Mark) (ends : List Mark → Prop) :
    Prop where
  different : separator ≠ close
  separates : ∀ tail, ends (separator :: tail)
  closes : ∀ tail, ends (close :: tail)
  separator_kept : ∀ tail, skip (separator :: tail) = separator :: tail
  close_kept : ∀ tail, skip (close :: tail) = close :: tail

/-- The texts of a sequence, joined and closed, read as the sequence. -/
theorem read_joined (marks : Marks skip separator close ends) {first : List Mark}
    {texts : List (List Mark)} {value : Element} {values : List Element}
    (here : Reads element ends first value) (others : List.Forall₂ (Reads element ends) texts values)
    (starts : ∀ text ∈ texts, ∀ tail, skip (text ++ tail) = text ++ tail) {count : Nat}
    (enough : texts.length < count) (tail : List Mark) :
    read skip separator close element count
        (first ++ (texts.flatMap (fun text => separator :: text) ++ close :: tail)) =
      some (value :: values, tail) := by
  induction others generalizing first value count with
  | nil =>
    obtain ⟨count, rfl⟩ : ∃ less, count = less + 1 := ⟨count - 1, by simp at enough; omega⟩
    rw [List.flatMap_nil, List.nil_append, read, here _ (marks.closes tail)]
    simp only [marks.close_kept, if_true]
  | @cons text second texts values there _ inductionHypothesis =>
    obtain ⟨count, rfl⟩ : ∃ less, count = less + 1 := ⟨count - 1, by simp at enough; omega⟩
    have fewer : texts.length < count := by
      rw [List.length_cons] at enough
      omega
    have following := inductionHypothesis there
      (fun other listed => starts other (List.mem_cons_of_mem _ listed)) fewer
    rw [List.flatMap_cons, List.cons_append, List.cons_append, List.append_assoc, read,
      here _ (marks.separates _)]
    simp only [marks.separator_kept, marks.different, if_false, if_true,
      starts text List.mem_cons_self, following, Option.map_some]

end Separated
