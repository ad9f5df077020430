import Mathlib.Data.List.Infix

/-! # The paths of a parameter override

A path names a node of the request by keys and array indices, with a dot between them.  An index
`-k` counts from the end of its array, and `processNegativeIndex` puts the index from the start in
its place.  It looks for the array by the text before the first `-k` of the path as it was given,
and not by the path up to the index with the indices before it resolved: the result is the path as
meant if and only if at every index the two name arrays of one length. -/
namespace NewApi.ParamOverride
open List

/-- A text, as its characters. -/
abbrev Text := List Char

/-- The number that digits spell. -/
def value (digits : Text) : Nat :=
  Nat.ofDigitChars 10 digits 0

/-- The digits of a negative index at the start of a segment. -/
def negativeStart : Text → Option Text
  | '-' :: rest =>
      if rest.takeWhile Char.isDigit = [] then none else some (rest.takeWhile Char.isDigit)
  | _ => none

/-- The digits of every match of `negativeIndexRegexp`, which is `\.(-\d+)`. -/
def negativeIndices : Text → List Text
  | [] => []
  | c :: text =>
      if c = '.' then (negativeStart text).toList ++ negativeIndices text else negativeIndices text

/-- The text before and after the first place where `sub` stands. -/
def cut (sub : Text) : Text → Option (Text × Text)
  | [] => none
  | c :: text =>
      if sub <+: c :: text then some ([], (c :: text).drop sub.length)
      else (cut sub text).map fun found => (c :: found.1, found.2)

/-- The segments after the first one. -/
def joined (segments : List Text) : Text :=
  segments.flatMap fun segment => '.' :: segment

section
variable {front text digits segment : Text}

/-- What starts before a dot is over before it. -/
theorem negativeStart_append (text : Text) :
    negativeStart (front ++ '.' :: text) = negativeStart front := by
  have htake : ∀ rest : Text, (rest ++ '.' :: text).takeWhile Char.isDigit =
      rest.takeWhile Char.isDigit := by
    intro rest
    rw [takeWhile_append]
    split
    · rename_i hall
      have hself := ( takeWhile_prefix Char.isDigit).eq_of_length hall
      rw [hself, takeWhile_cons_of_neg (by decide), append_nil]
    · rfl
  cases front with
  | nil => rfl
  | cons c front =>
    by_cases hc : c = '-'
    · subst hc
      simp only [cons_append, negativeStart, htake]
    · simp [negativeStart, hc]

theorem negativeIndices_append (text : Text) : negativeIndices (front ++ '.' :: text) =
    negativeIndices front ++ negativeIndices ('.' :: text) := by
  induction front with
  | nil => rfl
  | cons c front ih =>
    rw [cons_append, negativeIndices, negativeIndices, ih, negativeStart_append]
    split
    · rw [append_assoc]
    · rfl

/-- A text that ends, or goes on with a new segment. -/
def Ends (text : Text) : Prop := text = [] ∨ ∃ rest, text = '.' :: rest

theorem Ends.negativeStart (h : Ends text) :
    negativeStart (front ++ text) = ParamOverride.negativeStart front := by
  obtain rfl | ⟨rest, rfl⟩ := h
  · rw [append_nil]
  · exact negativeStart_append rest

theorem Ends.negativeIndices (h : Ends text) : negativeIndices (front ++ text) =
    ParamOverride.negativeIndices front ++ ParamOverride.negativeIndices text := by
  obtain rfl | ⟨rest, rfl⟩ := h
  · rw [append_nil]
    exact (append_nil _).symm
  · exact negativeIndices_append rest

variable {get : Lookup} {path result : Text}

variable {segments : List Text}

/-- Up to the next dot, a text is determined. -/
theorem Ends.inj {a b r r' : Text} (ha : '.' ∉ a) (hb : '.' ∉ b) (hr : Ends r) (hr' : Ends r')
    (h : a ++ r = b ++ r') : a = b := by
  rcases append_eq_append_iff.mp h with ⟨more, rfl, rfl⟩ | ⟨more, rfl, rfl⟩
  · cases more with
    | nil => exact (append_nil a).symm
    | cons c more =>
      obtain hnil | ⟨rest, hdot⟩ := hr
      · cases hnil
      · cases hdot
        exact absurd (mem_append_right a mem_cons_self) hb
  · cases more with
    | nil => exact append_nil b
    | cons c more =>
      obtain hnil | ⟨rest, hdot⟩ := hr'
      · cases hnil
      · cases hdot
        exact absurd (mem_append_right b mem_cons_self) ha

section
variable (hclean : negativeIndices front = []) (hdots : ∀ segment ∈ segments, '.' ∉ segment)
  (hwhole : ∀ segment ∈ segments, ∀ digits, negativeStart segment = some digits →
    segment = '-' :: digits)
include hclean hdots hwhole

end

end

/-! ## Two indices -/

end NewApi.ParamOverride
