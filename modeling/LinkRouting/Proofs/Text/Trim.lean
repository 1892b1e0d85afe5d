import LinkRouting.Text.Blank
import Mathlib.Data.List.TakeWhile

namespace LinkRouting.Text

variable {drop : Char → Bool} {text before behind : List Char}

theorem dropWhile_of_head? (kept : ∀ c ∈ text.head?, drop c = false) :
    text.dropWhile drop = text := by
  cases text with
  | nil => rfl
  | cons c rest =>
      have first : drop c = false := kept c rfl
      exact List.dropWhile_cons_of_neg (by simp [first])

theorem head?_dropWhile (drop : Char → Bool) (text : List Char) :
    ∀ c ∈ (text.dropWhile drop).head?, drop c = false := by
  intro c found
  have stopped := List.head?_dropWhile_not drop text
  rwa [found] at stopped

/-- A text whose ends are kept stays as it is. -/
theorem trimBoth_of_ends (first : ∀ c ∈ text.head?, drop c = false)
    (last : ∀ c ∈ text.getLast?, drop c = false) : trimBoth drop text = text := by
  unfold trimBoth
  rw [dropWhile_of_head? first, dropWhile_of_head?, List.reverse_reverse]
  rwa [List.head?_reverse]

theorem getLast?_trimBoth : ∀ c ∈ (trimBoth drop text).getLast?, drop c = false := by
  unfold trimBoth
  rw [List.getLast?_reverse]
  exact head?_dropWhile drop _

theorem trimBoth_isPrefix (drop : Char → Bool) (text : List Char) :
    trimBoth drop text <+: text.dropWhile drop := by
  have ending : (text.dropWhile drop).reverse.dropWhile drop <:+ (text.dropWhile drop).reverse :=
    List.dropWhile_suffix drop
  rw [← List.reverse_reverse (text.dropWhile drop)]
  exact List.reverse_prefix.mpr ending

theorem head?_trimBoth : ∀ c ∈ (trimBoth drop text).head?, drop c = false := by
  intro c found
  obtain ⟨behind, split⟩ := trimBoth_isPrefix drop text
  refine head?_dropWhile drop text c ?_
  rw [← split, List.head?_append, Option.mem_def.mp found]
  rfl

theorem trimBoth_trimBoth (drop : Char → Bool) (text : List Char) :
    trimBoth drop (trimBoth drop text) = trimBoth drop text :=
  trimBoth_of_ends head?_trimBoth getLast?_trimBoth

theorem trimBoth_sublist : (trimBoth drop text).Sublist text :=
  (trimBoth_isPrefix drop text).sublist.trans (List.dropWhile_sublist drop)

theorem exists_trimBoth (drop : Char → Bool) (text : List Char) : ∃ lead trail,
    text = lead ++ trimBoth drop text ++ trail ∧ (∀ c ∈ lead, drop c = true) ∧
      ∀ c ∈ trail, drop c = true := by
  let rest := text.dropWhile drop
  refine ⟨text.takeWhile drop, (rest.reverse.takeWhile drop).reverse, ?_, ?_, ?_⟩
  · have back : trimBoth drop text ++ (rest.reverse.takeWhile drop).reverse = rest := by
      rw [trimBoth, ← List.reverse_append, List.takeWhile_append_dropWhile, List.reverse_reverse]
    rw [List.append_assoc, back, List.takeWhile_append_dropWhile]
  · exact fun c member => List.mem_takeWhile_imp member
  · exact fun c member => List.mem_takeWhile_imp (List.mem_reverse.mp member)

theorem trimBoth_eq_nil_iff : trimBoth drop text = [] ↔ ∀ c ∈ text, drop c = true := by
  constructor
  · intro nothing c member
    obtain ⟨lead, trail, split, leading, trailing⟩ := exists_trimBoth drop text
    rw [split, nothing, List.append_nil, List.mem_append] at member
    exact member.elim (leading c) (trailing c)
  · intro dropped
    rw [trimBoth, List.dropWhile_eq_nil_iff.mpr dropped]
    rfl

theorem trim_eq_empty_iff {text : String} : trim text = "" ↔ blank text = true := by
  rw [← String.toList_inj, trim, String.toList_ofList, String.toList_empty, trimBoth_eq_nil_iff,
    blank, List.all_eq_true]

theorem dropWhile_append_of_kept (kept : ∃ c ∈ before, drop c = false) (behind : List Char) :
    (before ++ behind).dropWhile drop = before.dropWhile drop ++ behind := by
  obtain ⟨c, member, stays⟩ := kept
  have some : (before.dropWhile drop).isEmpty = false := by
    rw [List.isEmpty_eq_false_iff, Ne, List.dropWhile_eq_nil_iff]
    intro dropped
    rw [dropped c member] at stays
    cases stays
  rw [List.dropWhile_append, some, if_neg Bool.false_ne_true]

theorem dropWhile_append_of_head? (kept : ∀ c ∈ behind.head?, drop c = false)
    (before : List Char) :
    (before ++ behind).dropWhile drop = before.dropWhile drop ++ behind := by
  rw [List.dropWhile_append]
  split
  · rename_i nothing
    rw [dropWhile_of_head? kept, List.isEmpty_iff.mp nothing, List.nil_append]
  · rfl

theorem dropWhile_append_cons {c : Char} (kept : drop c = false) (before behind : List Char) :
    (before ++ c :: behind).dropWhile drop = before.dropWhile drop ++ c :: behind := by
  apply dropWhile_append_of_head?
  rw [List.head?_cons]
  rintro _ ⟨⟩
  exact kept

/-- Trimming does not reach beyond what is kept. -/
theorem trimBoth_append (first : ∃ c ∈ before, drop c = false)
    (last : ∃ c ∈ behind, drop c = false) (middle : List Char) :
    trimBoth drop (before ++ middle ++ behind) =
      before.dropWhile drop ++ middle ++ (behind.reverse.dropWhile drop).reverse := by
  obtain ⟨c, member, stays⟩ := last
  have back : ∃ c ∈ behind.reverse, drop c = false := ⟨c, List.mem_reverse.mpr member, stays⟩
  unfold trimBoth
  rw [List.append_assoc, dropWhile_append_of_kept first, ← List.append_assoc,
    List.reverse_append, dropWhile_append_of_kept back, List.reverse_append, List.reverse_reverse]

/-- What stands behind something that is kept is only cut at its end. -/
theorem trimBoth_append_of_kept (some : before ≠ []) (kept : ∀ c ∈ before, drop c = false)
    (behind : List Char) :
    trimBoth drop (before ++ behind) = before ++ (behind.reverse.dropWhile drop).reverse := by
  have front : (before ++ behind).dropWhile drop = before ++ behind := by
    obtain ⟨c, rest, rfl⟩ := List.exists_cons_of_ne_nil some
    exact List.dropWhile_cons_of_neg (by simp [kept c])
  have back : before.reverse.dropWhile drop = before.reverse := by
    apply dropWhile_of_head?
    rw [List.head?_reverse]
    exact fun c found => kept c (List.mem_of_mem_getLast? found)
  unfold trimBoth
  rw [front, List.reverse_append, List.dropWhile_append]
  split
  · rename_i nothing
    rw [back, List.isEmpty_iff.mp nothing, List.reverse_reverse, List.reverse_nil, List.append_nil]
  · rw [List.reverse_append, List.reverse_reverse]

@[simp] theorem trim_trim (text : String) : trim (trim text) = trim text := by
  unfold trim
  rw [String.toList_ofList, trimBoth_trimBoth]

end LinkRouting.Text
