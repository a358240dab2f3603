import Subgraph.Proofs.Names
import Subgraph.Proofs.Trim

namespace Subgraph

namespace TypeExpr

open Text

theorem peel_congr {first second : List Char} (same : trim first = trim second) :
    peel first = peel second := by
  rw [peel, same]
  conv_rhs => rw [peel]

theorem peel_mark (text : List Char) : peel (text ++ ['!']) = peel text := by
  have trimmed := trim_append_singleton text (c := '!') (by decide)
  rw [peel, trimmed, if_pos (by simp), List.dropLast_concat]
  exact peel_congr (trim_dropWhile text)

theorem getLast?_wrap (text : List Char) : ('[' :: text ++ [']']).getLast? = some ']' :=
  List.getLast?_concat

theorem unwrap?_wrap (text : List Char) : unwrap? ('[' :: text ++ [']']) = some text := by
  rw [unwrap?, if_pos ⟨rfl, getLast?_wrap text⟩]
  simp

theorem unwrap?_eq_some {body inner : List Char} (found : unwrap? body = some inner) :
    body = '[' :: inner ++ [']'] := by
  unfold unwrap? at found
  split at found
  · rename_i bracketed
    obtain ⟨rest, rfl⟩ := List.head?_eq_some_iff.mp bracketed.1
    obtain ⟨front, whole⟩ := List.getLast?_eq_some_iff.mp bracketed.2
    cases found
    cases front with
    | nil => cases whole
    | cons c front =>
      obtain ⟨rfl, rfl⟩ := List.cons.inj whole
      simp
  · cases found

theorem peel_wrap (text : List Char) : peel ('[' :: text ++ [']']) = peel text := by
  have trimmed : trim ('[' :: text ++ [']']) = '[' :: text ++ [']'] := by
    refine trim_eq_self (fun c first => ?_) fun c last => ?_
    · cases Option.some.inj first
      decide
    · cases Option.some.inj ((getLast?_wrap text).symm.trans last)
      decide
  rw [peel, trimmed, if_neg (by rw [getLast?_wrap]; decide)]
  split
  · rename_i inner found
    rw [unwrap?_wrap, Option.some.injEq] at found
    rw [found]
  · rename_i found
    rw [unwrap?_wrap] at found
    cases found

/-- Where nothing is left to take off, a name stands for itself. -/
theorem peel_eq_self {text : List Char} (trimmed : trim text = text)
    (unmarked : text.getLast? ≠ some '!') (unwrapped : unwrap? text = none) : peel text = text := by
  rw [peel, trimmed, if_neg unmarked]
  split
  · rename_i inner found
    rw [unwrapped] at found
    cases found
  · rfl

/-- A text without blanks, marks and opening brackets stands for itself. -/
theorem peel_eq_self_of_plain {text : List Char} (solid : ∀ c ∈ text, isBlank c = false)
    (unmarked : '!' ∉ text) (unopened : '[' ∉ text) : peel text = text := by
  refine peel_eq_self (dropEnds_of_forall solid) (fun last => ?_) ?_
  · exact unmarked (List.mem_of_getLast? last)
  · exact if_neg fun bracketed => unopened (List.mem_of_mem_head? bracketed.1)

theorem toList_decorate (base : String) (repeated required : Bool) :
    (decorate base repeated required).toList =
      (if repeated then '[' :: base.toList ++ [']'] else base.toList) ++
        if required then ['!'] else [] := by
  cases repeated <;> cases required <;> simp [decorate]

@[simp] theorem decorate_plain (base : String) : decorate base false false = base := by
  simp [decorate]

/-- Decoration leaves the base name to be found. -/
theorem peel_decorate (base : String) (repeated required : Bool) :
    peel (decorate base repeated required).toList = peel base.toList := by
  rw [toList_decorate]
  cases required with
  | false =>
    cases repeated with
    | false => simp
    | true => simpa using peel_wrap base.toList
  | true =>
    rw [if_pos rfl, peel_mark]
    cases repeated with
    | false => rfl
    | true => exact peel_wrap base.toList

theorem peel_eq_self_of_isNameChar {base : List Char}
    (allowed : ∀ c ∈ base, Words.isNameChar c = true) : peel base = base := by
  refine peel_eq_self_of_plain (fun c member => ?_) (fun member => ?_) fun member => ?_
  · exact Words.not_isBlank_of_not_isSeparator (Words.nameCharFacts (allowed c member)).undivided
  · exact absurd (allowed '!' member) (by decide)
  · exact absurd (allowed '[' member) (by decide)

theorem baseName_decorate {base : String} (allowed : ∀ c ∈ base.toList, Words.isNameChar c = true)
    (repeated required : Bool) : baseName (decorate base repeated required) = base := by
  rw [baseName, onChars, peel_decorate, peel_eq_self_of_isNameChar allowed, String.ofList_toList]

theorem count_brackets_decorate {base : String}
    (allowed : ∀ c ∈ base.toList, Words.isNameChar c = true) (repeated required : Bool) :
    (decorate base repeated required).toList.count '[' =
      (decorate base repeated required).toList.count ']' := by
  have no_open : base.toList.count '[' = 0 :=
    List.count_eq_zero.mpr fun member => absurd (allowed _ member) (by decide)
  have no_close : base.toList.count ']' = 0 :=
    List.count_eq_zero.mpr fun member => absurd (allowed _ member) (by decide)
  rw [toList_decorate]
  cases repeated <;> cases required <;> simp [no_open, no_close]

/-- A name with a letter or digit makes a well-formed type, however it is decorated. -/
theorem check_decorate {base : String} (named : Words.IsName base.toList)
    (alphanum : ∃ c ∈ base.toList, c.isAlphanum = true) (repeated required : Bool) :
    check (decorate base repeated required) = none := by
  obtain ⟨nonempty, start, allowed⟩ := named
  have decorated : decorate base repeated required ≠ "" := by
    intro empty
    have chars := toList_decorate base repeated required
    rw [empty] at chars
    cases repeated <;> cases required <;> simp_all
  have shaped : isBaseName base.toList = true := by
    obtain ⟨letter, member, alphanum⟩ := alphanum
    have solid : (letter != '_') = true := by
      rw [bne_iff_ne]
      rintro rfl
      exact absurd alphanum (by decide)
    cases chars : base.toList with
    | nil => exact absurd chars nonempty
    | cons c rest =>
      rw [chars] at start allowed member
      simp only [isBaseName, Bool.and_eq_true]
      refine ⟨⟨?_, List.any_eq_true.mpr ⟨letter, member, solid⟩⟩, List.all_eq_true.mpr ?_⟩
      · exact (Words.nameCharFacts (allowed c (by simp))).start (start c rfl)
      · exact fun d inside => (Words.nameCharFacts (allowed d inside)).alphanumeric
  have filled : base ≠ "" := fun empty => nonempty (by simp [empty])
  simp [check, baseName_decorate allowed, count_brackets_decorate allowed, decorated, shaped, filled]

end TypeExpr

end Subgraph
