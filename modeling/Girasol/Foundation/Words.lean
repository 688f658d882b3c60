import Girasol.Foundation.Text
import Mathlib.Data.List.Infix

/-!
# Words in texts put together from parts

A text alternates fixed parts and given ones.  A fixed part separates its
neighbours for a word when no occurrence of the word can touch it, and then the
word occurs in the text only if it occurs in a given part.
-/

namespace Girasol.Foundation

theorem containsText_iff (s part : String) :
    containsText s part ↔ part.toList <:+: s.toList := by
  rw [containsText, List.any_eq_true]
  simp only [List.isPrefixOf_iff_prefix, List.infix_iff_prefix_suffix, List.mem_tails]
  exact ⟨fun ⟨tail, hsuffix, hprefix⟩ => ⟨tail, hprefix, hsuffix⟩,
    fun ⟨tail, hprefix, hsuffix⟩ => ⟨tail, hsuffix, hprefix⟩⟩

section

variable {α : Type*}

structure Separates (sep word : List α) : Prop where
  outside : ¬word <:+: sep
  wider : ¬sep <:+: word
  left : ∀ v ∈ word.tails, v ≠ [] → ¬v <+: sep
  right : ∀ u ∈ word.inits, u ≠ [] → ¬u <:+ sep

instance [DecidableEq α] (sep word : List α) : Decidable (Separates sep word) :=
  decidable_of_iff (¬word <:+: sep ∧ ¬sep <:+: word ∧
      (∀ v ∈ word.tails, v ≠ [] → ¬v <+: sep) ∧ ∀ u ∈ word.inits, u ≠ [] → ¬u <:+ sep)
    ⟨fun ⟨outside, wider, left, right⟩ => ⟨outside, wider, left, right⟩,
      fun ⟨outside, wider, left, right⟩ => ⟨outside, wider, left, right⟩⟩

variable {sep word : List α}

theorem Separates.infix_append (h : Separates sep word) (b : List α) :
    word <:+: sep ++ b ↔ word <:+: b := by
  rw [List.infix_append_iff_ne_nil]
  constructor
  · rintro (hsep | hb | ⟨u, v, hu, -, rfl, husep, -⟩)
    · exact absurd hsep h.outside
    · exact hb
    · exact absurd husep (h.right u ((List.mem_inits u _).mpr (List.prefix_append u v)) hu)
  · exact fun hb => .inr (.inl hb)

theorem Separates.infix_append_append (h : Separates sep word) (a b : List α) :
    word <:+: a ++ (sep ++ b) ↔ word <:+: a ∨ word <:+: sep ++ b := by
  rw [List.infix_append_iff_ne_nil]
  constructor
  · rintro (ha | hb | ⟨u, v, -, hv, rfl, -, hvb⟩)
    · exact .inl ha
    · exact .inr hb
    · exfalso
      rcases List.prefix_or_prefix_of_prefix hvb (List.prefix_append sep b) with hin | hover
      · exact h.left v ((List.mem_tails v _).mpr (List.suffix_append u v)) hv hin
      · exact h.wider (hover.isInfix.trans (List.suffix_append u v).isInfix)
  · rintro (ha | hb)
    · exact .inl ha
    · exact .inr (.inl hb)

end

/-- `format!`: fixed parts with a given part after each, and a last fixed part. -/
def formatText : List (String × String) → String → String
  | [], last => last
  | (sep, given) :: rest, last => sep ++ (given ++ formatText rest last)

theorem infix_append_formatText {word given : String} {parts : List (String × String)}
    {last : String} (hparts : ∀ part ∈ parts, Separates part.1.toList word.toList)
    (hlast : last = "" ∨ Separates last.toList word.toList) :
    word.toList <:+: given.toList ++ (formatText parts last).toList ↔
      word.toList <:+: given.toList ∨ word.toList <:+: (formatText parts last).toList := by
  cases parts with
  | nil =>
      rcases hlast with rfl | hlast
      · have hnil : word.toList <:+: [] → word.toList <:+: given.toList := fun h =>
          h.trans List.nil_infix
        simpa [formatText] using hnil
      · simpa [formatText] using hlast.infix_append_append given.toList []
  | cons part parts =>
      simpa [formatText] using (hparts part List.mem_cons_self).infix_append_append given.toList _

theorem containsText_formatText {word : String} {parts : List (String × String)} {last : String}
    (hword : word ≠ "") (hparts : ∀ part ∈ parts, Separates part.1.toList word.toList)
    (hlast : last = "" ∨ Separates last.toList word.toList) :
    containsText (formatText parts last) word ↔ ∃ part ∈ parts, containsText part.2 word := by
  simp only [containsText_iff]
  induction parts with
  | nil =>
      refine iff_of_false ?_ (by simp)
      rcases hlast with rfl | hlast
      · simpa [formatText] using hword
      · exact hlast.outside
  | cons part parts ih =>
      have hrest := fun other hother => hparts other (List.mem_cons_of_mem part hother)
      rw [formatText, String.toList_append, (hparts part List.mem_cons_self).infix_append,
        String.toList_append, infix_append_formatText hrest hlast, ih hrest]
      simp

theorem containsText_formatText_of_last {word last : String} (hlast : containsText last word)
    (parts : List (String × String)) : containsText (formatText parts last) word := by
  rw [containsText_iff] at hlast ⊢
  induction parts with
  | nil => exact hlast
  | cons part parts ih =>
      simp only [formatText, String.toList_append]
      exact List.infix_append_of_infix_right (List.infix_append_of_infix_right ih)

theorem containsText_formatText_of_fixed {word sep : String} (hsep : containsText sep word)
    (given : String) (rest : List (String × String)) (last : String) :
    containsText (formatText ((sep, given) :: rest) last) word := by
  rw [containsText_iff] at hsep ⊢
  rw [formatText, String.toList_append]
  exact List.infix_append_of_infix_left hsep

end Girasol.Foundation
