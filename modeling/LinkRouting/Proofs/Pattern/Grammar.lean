import LinkRouting.Proofs.Pattern.Candidates
import LinkRouting.Proofs.Text.Slice
import Mathlib.Data.List.Basic
import Mathlib.Data.List.Induction

namespace LinkRouting.Pattern

open Text (byteSize)

/-! The grammar of patterns with optional groups.  A text is in order if it is a stem and groups
with slashes behind them; any other has a first character that is misplaced, or a group that stays
open.
-/

def isParen (c : Char) : Bool := c == '(' || c == ')'

/-- A text without parentheses. -/
def Plain (text : List Char) : Prop := ∀ c ∈ text, isParen c = false

instance (text : List Char) : Decidable (Plain text) :=
  List.decidableBAll (fun c => isParen c = false) text

/-- Whether a group is open behind `text`: the last parenthesis of the text opens one. -/
def isOpen (text : List Char) : Bool := (text.filter isParen).getLast? = some '('

/-- What is wrong with a character behind `before`, where nothing is wrong so far. -/
inductive Misplaced (before : List Char) : Char → Fault → Prop
  | nested (opened : isOpen before = true) :
      Misplaced before '(' (.nested (byteSize before))
  | unbalanced (closed : isOpen before = false) :
      Misplaced before ')' (.unbalanced (byteSize before))
  | textAfter {c : Char} (closed : isOpen before = false) (grouped : '(' ∈ before)
      (other : isParen c = false) (visible : c ≠ '/') :
      Misplaced before c (.textAfter (byteSize before))

def WellPlaced (text : List Char) : Prop :=
  ∀ before c behind fault, text = before ++ c :: behind → ¬Misplaced before c fault

structure Group where
  body : List Char
  /-- The number of slashes behind the group. -/
  slashes : Nat
deriving DecidableEq, Repr

def Group.chars (group : Group) : List Char :=
  '(' :: group.body ++ ')' :: List.replicate group.slashes '/'

/-- A text that is in order. -/
structure Written (text stem : List Char) (groups : List Group) : Prop where
  plain : Plain stem
  bodies : ∀ group ∈ groups, Plain group.body
  spelled : text = stem ++ groups.flatMap Group.chars

/-! How the reader of layouts gets over what is in order. -/

section Reading

variable {position opened : Nat} {before behind body stem text : List Char} {groups : List Group}

theorem Plain.cons {c : Char} {rest : List Char} (plain : Plain (c :: rest)) :
    c ≠ '(' ∧ c ≠ ')' ∧ Plain rest := by
  obtain ⟨first, later⟩ := List.forall_mem_cons.mp plain
  simp only [isParen, Bool.or_eq_false_iff, beq_eq_false_iff_ne] at first
  exact ⟨first.1, first.2, later⟩

theorem layoutFrom_append (plain : Plain before) (behind : List Char) :
    layoutFrom position (before ++ behind) =
      (layoutFrom (position + byteSize before) behind).map fun layout =>
        ⟨before ++ layout.stem, layout.groups⟩ := by
  induction before generalizing position with
  | nil =>
      change layoutFrom position behind = (layoutFrom position behind).map id
      cases layoutFrom position behind <;> rfl
  | cons c rest ih =>
      obtain ⟨unopened, unclosed, later⟩ := plain.cons
      rw [List.cons_append, layoutFrom, if_neg unopened, if_neg unclosed, ih later,
        Text.byteSize_cons, Nat.add_assoc]
      cases layoutFrom (position + (c.utf8Size + byteSize rest)) behind <;> rfl

theorem bodiesInside_append (plain : Plain body) (behind : List Char) :
    bodiesInside opened position (body ++ behind) =
      (bodiesInside opened (position + byteSize body) behind).map fun bodies =>
        body.foldr consBody bodies := by
  induction body generalizing position with
  | nil =>
      change bodiesInside opened position behind = (bodiesInside opened position behind).map id
      cases bodiesInside opened position behind <;> rfl
  | cons c rest ih =>
      obtain ⟨unopened, unclosed, later⟩ := plain.cons
      rw [List.cons_append, bodiesInside, if_neg unopened, if_neg unclosed, ih later,
        Text.byteSize_cons, Nat.add_assoc]
      cases bodiesInside opened (position + (c.utf8Size + byteSize rest)) behind <;> rfl

theorem foldr_consBody (body : List Char) (bodies : List (List Char)) :
    body.foldr consBody ([] :: bodies) = body :: bodies := by
  induction body with
  | nil => rfl
  | cons c rest ih => rw [List.foldr_cons, ih, consBody]

theorem bodiesInside_closed (plain : Plain body) (behind : List Char) :
    bodiesInside opened position (body ++ ')' :: behind) =
      (bodiesBetween (position + byteSize body + 1) behind).map (body :: ·) := by
  have read : bodiesInside opened (position + byteSize body) (')' :: behind) =
      (bodiesBetween (position + byteSize body + 1) behind).map ([] :: ·) := rfl
  rw [bodiesInside_append plain, read]
  cases bodiesBetween (position + byteSize body + 1) behind with
  | error fault => rfl
  | ok bodies => exact congrArg Except.ok (foldr_consBody body bodies)

theorem bodiesInside_nested (plain : Plain body) (behind : List Char) :
    bodiesInside opened position (body ++ '(' :: behind) =
      .error (.nested (position + byteSize body)) := by
  rw [bodiesInside_append plain]
  rfl

theorem bodiesInside_unclosed (plain : Plain body) :
    bodiesInside opened position body = .error (.unbalanced opened) := by
  rw [← List.append_nil body, bodiesInside_append plain]
  rfl

theorem bodiesBetween_slashes (count : Nat) (behind : List Char) :
    bodiesBetween position (List.replicate count '/' ++ behind) =
      bodiesBetween (position + byteSize (List.replicate count '/')) behind := by
  induction count generalizing position with
  | zero => rfl
  | succ count ih =>
      have read : bodiesBetween position ('/' :: (List.replicate count '/' ++ behind)) =
          bodiesBetween (position + 1) (List.replicate count '/' ++ behind) := rfl
      have slash : '/'.utf8Size = 1 := rfl
      rw [List.replicate_succ, List.cons_append, read, ih, Text.byteSize_cons, slash,
        Nat.add_assoc]

theorem bodiesBetween_group {group : Group} (plain : Plain group.body) (behind : List Char) :
    bodiesBetween position (group.chars ++ behind) =
      (bodiesBetween (position + byteSize group.chars) behind).map (group.body :: ·) := by
  let slashes := List.replicate group.slashes '/'
  have spelled : group.chars ++ behind = '(' :: (group.body ++ ')' :: (slashes ++ behind)) := by
    simp [Group.chars, slashes]
  have entered (rest : List Char) : bodiesBetween position ('(' :: rest) =
      bodiesInside position (position + 1) rest := rfl
  have size : position + byteSize group.chars =
      position + 1 + byteSize group.body + 1 + byteSize slashes := by
    have paren : '('.utf8Size = 1 ∧ ')'.utf8Size = 1 := ⟨rfl, rfl⟩
    simp only [Group.chars, List.cons_append, Text.byteSize_cons, Text.byteSize_append, paren,
      slashes]
    omega
  rw [spelled, entered, bodiesInside_closed plain, bodiesBetween_slashes, size]

theorem bodiesBetween_groups (plain : ∀ group ∈ groups, Plain group.body) (behind : List Char) :
    bodiesBetween position (groups.flatMap Group.chars ++ behind) =
      (bodiesBetween (position + byteSize (groups.flatMap Group.chars)) behind).map fun bodies =>
        groups.map Group.body ++ bodies := by
  induction groups generalizing position with
  | nil =>
      change bodiesBetween position behind = (bodiesBetween position behind).map id
      cases bodiesBetween position behind <;> rfl
  | cons group rest ih =>
      obtain ⟨first, later⟩ := List.forall_mem_cons.mp plain
      rw [List.flatMap_cons, List.append_assoc, bodiesBetween_group first, ih later,
        Text.byteSize_append, Nat.add_assoc]
      cases bodiesBetween (position + (byteSize group.chars +
        byteSize (rest.flatMap Group.chars))) behind <;> rfl

theorem layoutFrom_groups (begun : (groups.flatMap Group.chars ++ behind).head? = some '(')
    (plain : ∀ group ∈ groups, Plain group.body) :
    layoutFrom position (groups.flatMap Group.chars ++ behind) =
      (bodiesBetween (position + byteSize (groups.flatMap Group.chars)) behind).map fun bodies =>
        ⟨[], groups.map Group.body ++ bodies⟩ := by
  obtain ⟨rest, split⟩ := List.head?_eq_some_iff.mp begun
  have entered : layoutFrom position ('(' :: rest) =
      (bodiesBetween position ('(' :: rest)).map (⟨[], ·⟩) := rfl
  rw [split, entered, ← split, bodiesBetween_groups plain]
  cases bodiesBetween (position + byteSize (groups.flatMap Group.chars)) behind <;> rfl

end Reading

namespace Written

variable {text stem body behind : List Char} {groups : List Group} {c : Char}

/-- Behind what is in order, the reader goes on between groups, if there is one or one begins. -/
theorem layoutFrom_append (written : Written text stem groups)
    (begun : groups ≠ [] ∨ behind.head? = some '(') : layoutFrom 0 (text ++ behind) =
      (bodiesBetween (byteSize text) behind).map fun bodies =>
        ⟨stem, groups.map Group.body ++ bodies⟩ := by
  have first : (groups.flatMap Group.chars ++ behind).head? = some '(' := by
    cases groups with
    | nil => exact begun.resolve_left fun some => some rfl
    | cons group rest => rfl
  rw [written.spelled, List.append_assoc, Pattern.layoutFrom_append written.plain,
    layoutFrom_groups first written.bodies, Text.byteSize_append, Nat.zero_add]
  cases bodiesBetween (byteSize stem + byteSize (groups.flatMap Group.chars)) behind with
  | error fault => rfl
  | ok bodies => simp [Except.map]

/-- What is in order is read as it is written. -/
theorem layoutFrom_eq (written : Written text stem groups) :
    layoutFrom 0 text = .ok ⟨stem, groups.map Group.body⟩ := by
  cases groups with
  | nil =>
      have whole : text = stem ++ [] := written.spelled
      rw [whole, Pattern.layoutFrom_append written.plain]
      simp [layoutFrom, Except.map]
  | cons group rest =>
      have whole : text = text ++ [] := (List.append_nil text).symm
      rw [whole, written.layoutFrom_append (.inl (List.cons_ne_nil group rest))]
      simp [bodiesBetween, Except.map]

/-- A body is read where its group is closed. -/
theorem closed (written : Written text stem groups) (plain : Plain body) (behind : List Char) :
    layoutFrom 0 (text ++ '(' :: body ++ ')' :: behind) =
      (bodiesBetween (byteSize (text ++ '(' :: body) + 1) behind).map fun bodies =>
        ⟨stem, groups.map Group.body ++ body :: bodies⟩ := by
  have read : bodiesBetween (byteSize text) ('(' :: (body ++ ')' :: behind)) =
      bodiesInside (byteSize text) (byteSize text + 1) (body ++ ')' :: behind) := rfl
  have size : byteSize (text ++ '(' :: body) = byteSize text + 1 + byteSize body := by
    have paren : '('.utf8Size = 1 := rfl
    rw [Text.byteSize_append, Text.byteSize_cons, paren, Nat.add_assoc]
  rw [List.append_assoc, List.cons_append, written.layoutFrom_append (.inr rfl), read,
    bodiesInside_closed plain, size]
  cases bodiesBetween (byteSize text + 1 + byteSize body + 1) behind <;> rfl

theorem unclosed (written : Written text stem groups) (plain : Plain body) :
    layoutFrom 0 (text ++ '(' :: body) = .error (.unbalanced (byteSize text)) := by
  have read : bodiesBetween (byteSize text) ('(' :: body) =
      bodiesInside (byteSize text) (byteSize text + 1) body := rfl
  rw [written.layoutFrom_append (.inr rfl), read, bodiesInside_unclosed plain]
  rfl

theorem nested (written : Written text stem groups) (plain : Plain body) (behind : List Char) :
    layoutFrom 0 (text ++ '(' :: (body ++ '(' :: behind)) =
      .error (.nested (byteSize (text ++ '(' :: body))) := by
  have read : bodiesBetween (byteSize text) ('(' :: (body ++ '(' :: behind)) =
      bodiesInside (byteSize text) (byteSize text + 1) (body ++ '(' :: behind) := rfl
  have paren : '('.utf8Size = 1 := rfl
  rw [written.layoutFrom_append (.inr rfl), read, bodiesInside_nested plain, Text.byteSize_append,
    Text.byteSize_cons, paren, Nat.add_assoc]
  rfl

theorem unbalanced (written : Written text stem groups) (behind : List Char) :
    layoutFrom 0 (text ++ ')' :: behind) = .error (.unbalanced (byteSize text)) := by
  cases groups with
  | nil =>
      have whole : text = stem := written.spelled.trans (List.append_nil stem)
      rw [whole, Pattern.layoutFrom_append written.plain, Nat.zero_add]
      rfl
  | cons group rest =>
      rw [written.layoutFrom_append (.inl (List.cons_ne_nil group rest))]
      rfl

theorem textAfter (written : Written text stem groups) (some : groups ≠ [])
    (other : isParen c = false) (visible : c ≠ '/') (behind : List Char) :
    layoutFrom 0 (text ++ c :: behind) = .error (.textAfter (byteSize text)) := by
  obtain ⟨unopened, unclosed⟩ : c ≠ '(' ∧ c ≠ ')' := by simpa [isParen] using other
  rw [written.layoutFrom_append (.inl some), bodiesBetween, if_neg unopened, if_neg unclosed,
    if_neg visible]
  rfl

end Written

/-! Every text is in order, or ends in an open group, or has a first character that is
misplaced. -/

section Order

variable {text before behind body stem : List Char} {groups : List Group} {c : Char}
  {fault : Fault}

theorem isOpen_append_plain (plain : Plain behind) (before : List Char) :
    isOpen (before ++ behind) = isOpen before := by
  have parenless : behind.filter isParen = [] :=
    List.filter_eq_nil_iff.mpr fun c member => by simp [plain c member]
  rw [isOpen, List.filter_append, parenless, List.append_nil, isOpen]

theorem isOpen_append_paren (paren : isParen c = true) (before : List Char) :
    isOpen (before ++ [c]) = decide (c = '(') := by
  rw [isOpen, List.filter_append, List.filter_cons_of_pos paren, List.filter_nil]
  simp only [List.getLast?_concat, Option.some_inj]

theorem isOpen_append_open (plain : Plain body) (before : List Char) :
    isOpen (before ++ '(' :: body) = true := by
  rw [List.append_cons, isOpen_append_plain plain, isOpen_append_paren rfl]
  rfl

theorem plain_slashes (count : Nat) : Plain (List.replicate count '/') := by
  intro c member
  rw [List.eq_of_mem_replicate member]
  rfl

theorem Plain.append (plain : Plain text) (other : isParen c = false) : Plain (text ++ [c]) := by
  intro d member
  rcases List.mem_append.mp member with early | last
  · exact plain d early
  · rwa [List.mem_singleton.mp last]

namespace Written

theorem isOpen (written : Written text stem groups) : isOpen text = false := by
  rcases groups.eq_nil_or_concat' with rfl | ⟨init, group, rfl⟩
  · have whole : text = [] ++ stem := written.spelled.trans (List.append_nil stem)
    rw [whole, isOpen_append_plain written.plain]
    rfl
  · have whole : text = (stem ++ init.flatMap Group.chars ++ '(' :: group.body) ++ [')'] ++
        List.replicate group.slashes '/' := by
      rw [written.spelled]
      simp [Group.chars]
    rw [whole, isOpen_append_plain (plain_slashes group.slashes), isOpen_append_paren rfl]
    rfl

theorem mem_iff (written : Written text stem groups) : '(' ∈ text ↔ groups ≠ [] := by
  rw [written.spelled]
  cases groups with
  | nil => simpa using fun member => absurd (written.plain '(' member) (by decide)
  | cons group rest => simp [Group.chars]

theorem concat (written : Written text stem groups) (plain : Plain body) :
    Written (text ++ '(' :: body ++ [')']) stem (groups ++ [⟨body, 0⟩]) where
  plain := written.plain
  bodies := by
    intro group member
    rcases List.mem_append.mp member with early | last
    · exact written.bodies group early
    · rwa [List.mem_singleton.mp last]
  spelled := by
    rw [written.spelled]
    simp [Group.chars]

/-- A slash behind a group belongs to the group. -/
theorem slash (written : Written text stem groups) (some : groups ≠ []) :
    ∃ others, Written (text ++ ['/']) stem others := by
  obtain ⟨init, group, rfl⟩ := groups.eq_nil_or_concat'.resolve_left some
  refine ⟨init ++ [{ group with slashes := group.slashes + 1 }], written.plain, ?_, ?_⟩
  · intro other member
    rcases List.mem_append.mp member with early | last
    · exact written.bodies other (List.mem_append_left _ early)
    · rw [List.mem_singleton.mp last]
      exact written.bodies group (by simp)
  · rw [written.spelled]
    simp [Group.chars, List.replicate_succ']

end Written

/-- By induction on the text read so far: what may follow it keeps it in order, opens a group or
belongs to the open one. -/
theorem WellPlaced.cases (placed : WellPlaced text) :
    (∃ stem groups, Written text stem groups) ∨
      ∃ before body stem groups, text = before ++ '(' :: body ∧ Plain body ∧
        Written before stem groups := by
  induction text using List.reverseRecOn with
  | nil => exact .inl ⟨[], [], ⟨nofun, nofun, rfl⟩⟩
  | append_singleton text c ih =>
      have earlier : WellPlaced text := by
        rintro before d behind fault rfl
        exact placed before d (behind ++ [c]) fault (by simp)
      have placedLast (fault : Fault) : ¬Misplaced text c fault :=
        placed text c [] fault rfl
      rcases ih earlier with ⟨stem, groups, written⟩ | ⟨before, body, stem, groups, rfl, plain,
        written⟩
      · by_cases opens : c = '('
        · exact .inr ⟨text, [], stem, groups, by rw [opens], nofun, written⟩
        · by_cases closes : c = ')'
          · subst closes
            exact absurd (.unbalanced written.isOpen) (placedLast _)
          · have other : isParen c = false := by simp [isParen, opens, closes]
            by_cases grouped : groups = []
            · subst grouped
              have whole : text = stem := written.spelled.trans (List.append_nil stem)
              exact .inl ⟨stem ++ [c], [], written.plain.append other, nofun, by simp [whole]⟩
            · have slash : c = '/' := by
                by_contra visible
                exact placedLast _
                  (.textAfter written.isOpen (written.mem_iff.mpr grouped) other visible)
              obtain ⟨others, more⟩ := written.slash grouped
              exact .inl ⟨stem, others, slash ▸ more⟩
      · by_cases opens : c = '('
        · subst opens
          exact absurd (.nested (isOpen_append_open plain before)) (placedLast _)
        · by_cases closes : c = ')'
          · exact .inl ⟨stem, _, closes ▸ written.concat plain⟩
          · have other : isParen c = false := by simp [isParen, opens, closes]
            exact .inr ⟨before, body ++ [c], stem, groups, by simp, plain.append other, written⟩

theorem layoutFrom_of_misplaced (placed : WellPlaced before) (misplaced : Misplaced before c fault)
    (behind : List Char) : layoutFrom 0 (before ++ c :: behind) = .error fault := by
  rcases placed.cases with ⟨stem, groups, written⟩ | ⟨start, body, stem, groups, rfl, plain,
    written⟩
  · have closed := written.isOpen
    cases misplaced with
    | nested opened => simp [closed] at opened
    | unbalanced _ => exact written.unbalanced behind
    | textAfter _ grouped other visible =>
        exact written.textAfter (written.mem_iff.mp grouped) other visible behind
  · have opened := isOpen_append_open plain start
    cases misplaced with
    | nested _ =>
        rw [List.append_assoc]
        exact written.nested plain behind
    | unbalanced closed => simp [opened] at closed
    | textAfter closed => simp [opened] at closed

theorem exists_first_misplaced (faulty : ¬WellPlaced text) :
    ∃ before c behind fault, text = before ++ c :: behind ∧ WellPlaced before ∧
      Misplaced before c fault := by
  induction text using List.reverseRecOn with
  | nil => exact absurd (fun before c behind fault split => by simp at split) faulty
  | append_singleton text d ih =>
      by_cases placed : WellPlaced text
      · simp only [WellPlaced, not_forall, not_not] at faulty
        obtain ⟨before, c, behind, fault, split, misplaced⟩ := faulty
        rcases behind.eq_nil_or_concat' with rfl | ⟨init, last, rfl⟩
        · obtain ⟨rfl, _⟩ := List.append_inj' split rfl
          exact ⟨_, c, [], fault, split, placed, misplaced⟩
        · have inside : text = before ++ c :: init := by
            have longer : text ++ [d] = (before ++ c :: init) ++ [last] := by simpa using split
            exact (List.append_inj' longer rfl).1
          exact absurd misplaced (placed before c init fault inside)
      · obtain ⟨before, c, behind, fault, rfl, earlier, misplaced⟩ := ih placed
        exact ⟨before, c, behind ++ [d], fault, by simp, earlier, misplaced⟩

end Order

/-! There is but one way to write a text. -/

section Unique

variable {text stem other : List Char} {groups others : List Group}

theorem append_inj_of_stops (kept : Char → Bool) {first second before behind : List Char}
    (own : ∀ c ∈ first, kept c = true) (also : ∀ c ∈ second, kept c = true)
    (stops : before.takeWhile kept = []) (alsoStops : behind.takeWhile kept = [])
    (same : first ++ before = second ++ behind) : first = second ∧ before = behind := by
  have taken := congrArg (List.takeWhile kept) same
  rw [List.takeWhile_append_of_pos own, List.takeWhile_append_of_pos also, stops, alsoStops,
    List.append_nil, List.append_nil] at taken
  subst taken
  exact ⟨rfl, List.append_cancel_left same⟩

theorem takeWhile_groups {kept : Char → Bool} (stops : kept '(' = false) (groups : List Group) :
    (groups.flatMap Group.chars).takeWhile kept = [] := by
  cases groups with
  | nil => rfl
  | cons group rest =>
      rw [List.flatMap_cons, Group.chars, List.cons_append, List.cons_append,
        List.takeWhile_cons_of_neg (by simp [stops])]

theorem groups_injective (plain : ∀ group ∈ groups, Plain group.body)
    (also : ∀ group ∈ others, Plain group.body)
    (same : groups.flatMap Group.chars = others.flatMap Group.chars) : groups = others := by
  induction groups generalizing others with
  | nil =>
      cases others with
      | nil => rfl
      | cons other rest => cases same
  | cons group rest ih =>
      cases others with
      | nil => cases same
      | cons other more =>
          obtain ⟨own, later⟩ := List.forall_mem_cons.mp plain
          obtain ⟨ownAlso, laterAlso⟩ := List.forall_mem_cons.mp also
          have behind : group.body ++
                ')' :: (List.replicate group.slashes '/' ++ rest.flatMap Group.chars) =
              other.body ++
                ')' :: (List.replicate other.slashes '/' ++ more.flatMap Group.chars) := by
            simpa [Group.chars] using same
          obtain ⟨bodies, ends⟩ := append_inj_of_stops (fun c => !isParen c)
            (fun c member => by simp [own c member]) (fun c member => by simp [ownAlso c member])
            rfl rfl behind
          obtain ⟨slashes, left⟩ := append_inj_of_stops (fun c => c == '/')
            (fun c member => beq_iff_eq.mpr (List.eq_of_mem_replicate member))
            (fun c member => beq_iff_eq.mpr (List.eq_of_mem_replicate member))
            (takeWhile_groups rfl rest) (takeWhile_groups rfl more) (List.cons.inj ends).2
          have count : group.slashes = other.slashes := by
            simpa using congrArg List.length slashes
          rw [ih later laterAlso left]
          cases group
          cases other
          simp_all

theorem Written.unique (written : Written text stem groups) (also : Written text other others) :
    other = stem ∧ others = groups := by
  have same := also.spelled.symm.trans written.spelled
  obtain ⟨stems, behind⟩ := append_inj_of_stops (fun c => !isParen c)
    (fun c member => by simp [also.plain c member])
    (fun c member => by simp [written.plain c member])
    (takeWhile_groups rfl others) (takeWhile_groups rfl groups) same
  exact ⟨stems, groups_injective also.bodies written.bodies behind⟩

end Unique

/-! What a layout compiles to. -/

section Compile

variable {pattern : String} {read : Layout} {fault : Fault}

theorem Layout.candidates_eq_nil_iff (layout : Layout) : layout.candidates = [] ↔
    layout.stem.all Text.isBlank = true ∧ ∀ body ∈ layout.groups, body.all Text.isBlank = true := by
  have empty : layout.candidates = [] ↔ layout.visibleOrders = [] := by
    constructor
    · intro nothing
      refine List.eq_nil_iff_forall_not_mem.mpr fun order visible => ?_
      have spelled := layout.mem_candidates.mpr ⟨order, spells_iff.mpr ⟨visible, rfl⟩⟩
      simp [nothing] at spelled
    · intro nothing
      refine List.eq_nil_iff_forall_not_mem.mpr fun candidate member => ?_
      obtain ⟨order, spells, _⟩ := layout.made_of_mem_candidates member
      have visible := (spells_iff.mp spells).1
      simp [nothing] at visible
  rw [empty, List.eq_nil_iff_forall_not_mem]
  simp only [mem_visibleOrders, not_and, Bool.not_eq_false]
  constructor
  · intro blank
    -- The order of all groups as they are written has the text of every one of them.
    have whole := blank _ (List.nodup_finRange layout.groups.length)
    rw [text, List.map_get_finRange, List.all_append, Bool.and_eq_true, List.all_flatten] at whole
    exact ⟨whole.1, List.all_eq_true.mp whole.2⟩
  · rintro ⟨stem, groups⟩ order _
    rw [text, List.all_append, stem, Bool.true_and, List.all_flatten, List.all_map,
      List.all_eq_true]
    exact fun position _ => groups _ (List.get_mem ..)

theorem Written.layout_eq {stem : List Char} {groups : List Group}
    (written : Written pattern.toList stem groups) :
    layout pattern = .ok ⟨stem, groups.map Group.body⟩ := by
  simp only [layout, written.layoutFrom_eq, Except.mapError]

/-- A layout is read from what it is written as. -/
theorem written_of_layout (found : layout pattern = .ok read) : ∃ groups,
    Written pattern.toList read.stem groups ∧ read.groups = groups.map Group.body := by
  have known : layoutFrom 0 pattern.toList = .ok read := by
    cases result : layoutFrom 0 pattern.toList with
    | error fault => simp [layout, result, Except.mapError] at found
    | ok other => simpa [layout, result, Except.mapError] using found
  by_cases placed : WellPlaced pattern.toList
  · rcases placed.cases with ⟨stem, groups, written⟩ | ⟨before, body, stem, groups, split, plain,
      written⟩
    · obtain rfl := Except.ok.inj (written.layoutFrom_eq.symm.trans known)
      exact ⟨groups, written, rfl⟩
    · rw [split, written.unclosed plain] at known
      cases known
  · obtain ⟨before, c, behind, fault, split, earlier, misplaced⟩ := exists_first_misplaced placed
    rw [split, layoutFrom_of_misplaced earlier misplaced] at known
    cases known

theorem compile_of_fault (faulty : layoutFrom 0 pattern.toList = .error fault) :
    compile pattern = .error (fault.toError pattern) := by
  simp only [compile, layout, faulty, Except.mapError]

theorem compile_of_groups (found : layout pattern = .ok read) (grouped : read.groups ≠ []) :
    compile pattern =
      if maxGroups < read.groups.length then
        .error (.tooManyGroups pattern read.groups.length maxGroups)
      else match read.candidates with
        | [] => .error (.noCandidates pattern)
        | candidates => .ok candidates := by
  have some : ¬read.groups.isEmpty = true := by simpa using grouped
  rw [compile, found]
  exact if_neg some

/-- What becomes of a pattern that is in order. -/
theorem compile_of_layout (found : layout pattern = .ok read) :
    if 6 < read.groups.length then
      compile pattern = .error (.tooManyGroups pattern read.groups.length 6)
    else if read.groups ≠ [] ∧ read.stem.all Text.isBlank = true ∧
        ∀ body ∈ read.groups, body.all Text.isBlank = true then
      compile pattern = .error (.noCandidates pattern)
    else ∃ candidates, compile pattern = .ok candidates ∧ candidates ≠ [] ∧
      (read.groups = [] → candidates = [.ofString pattern]) := by
  by_cases grouped : read.groups = []
  · simp [grouped, compile, found]
  · have made := compile_of_groups found grouped
    by_cases many : 6 < read.groups.length
    · rw [if_pos many, made]
      exact if_pos many
    · rw [if_neg many]
      have few : ¬maxGroups < read.groups.length := many
      rw [if_neg few] at made
      cases expanded : read.candidates with
      | nil =>
          rw [expanded] at made
          rw [if_pos ⟨grouped, read.candidates_eq_nil_iff.mp expanded⟩, made]
      | cons candidate rest =>
          have visible : ¬(read.groups ≠ [] ∧ read.stem.all Text.isBlank = true ∧
              ∀ body ∈ read.groups, body.all Text.isBlank = true) := by
            intro blank
            simp [read.candidates_eq_nil_iff.mpr blank.2] at expanded
          rw [expanded] at made
          rw [if_neg visible]
          exact ⟨_, made, List.cons_ne_nil _ _, fun empty => absurd empty grouped⟩

end Compile

/-- A pattern is refused for the first character that is misplaced, or else for a group that stays
open.  Any other pattern is written as a stem and groups in one way only, and compiles unless it
has too many groups or nothing but blanks in them.  The stem that is read is the slice up to the
first group, and a body that is read is the slice between the parentheses of its group. -/
theorem compile_grammar (pattern : String) :
    let text := pattern.toList
    (¬WellPlaced text → ∃ before c behind fault, text = before ++ c :: behind ∧
      WellPlaced before ∧ Misplaced before c fault ∧
        compile pattern = .error (fault.toError pattern)) ∧
    (WellPlaced text → isOpen text = true → ∃ before body, text = before ++ '(' :: body ∧
      Plain body ∧ compile pattern = .error (.unbalancedGroup pattern (byteSize before))) ∧
    (WellPlaced text → isOpen text = false → ∃ stem groups, Written text stem groups ∧
      (∀ other others, Written text other others → other = stem ∧ others = groups) ∧
      layout pattern = .ok ⟨stem, groups.map Group.body⟩ ∧
      if 6 < groups.length then
        compile pattern = .error (.tooManyGroups pattern groups.length 6)
      else if groups ≠ [] ∧ stem.all Text.isBlank = true ∧
          ∀ group ∈ groups, group.body.all Text.isBlank = true then
        compile pattern = .error (.noCandidates pattern)
      else ∃ candidates, compile pattern = .ok candidates ∧ candidates ≠ [] ∧
        (groups = [] → candidates = [.ofString pattern])) ∧
    (∀ before behind, text = before ++ behind →
      Text.slice? text 0 (byteSize before) = some before ∧
      (Plain before → behind.head? = some '(' → layoutFrom 0 text =
        (bodiesBetween (byteSize before) behind).map fun bodies => ⟨before, bodies⟩)) ∧
    ∀ before body behind, text = before ++ '(' :: body ++ ')' :: behind →
      Text.slice? text (byteSize before + 1) (byteSize (before ++ '(' :: body)) = some body ∧
      ∀ stem groups, Written before stem groups → Plain body → layoutFrom 0 text =
        (bodiesBetween (byteSize (before ++ '(' :: body) + 1) behind).map fun bodies =>
          ⟨stem, groups.map Group.body ++ body :: bodies⟩ := by
  intro text
  refine ⟨fun faulty => ?_, fun placed opened => ?_, fun placed closed => ?_, ?_, ?_⟩
  · obtain ⟨before, c, behind, fault, split, earlier, misplaced⟩ := exists_first_misplaced faulty
    have refused := layoutFrom_of_misplaced earlier misplaced behind
    rw [← split] at refused
    exact ⟨before, c, behind, fault, split, earlier, misplaced, compile_of_fault refused⟩
  · rcases placed.cases with ⟨stem, groups, written⟩ | ⟨before, body, stem, groups, split, plain,
      written⟩
    · rw [written.isOpen] at opened
      cases opened
    · have refused := written.unclosed plain
      rw [← split] at refused
      exact ⟨before, body, split, plain, compile_of_fault refused⟩
  · rcases placed.cases with ⟨stem, groups, written⟩ | ⟨before, body, stem, groups, split, plain,
      written⟩
    · have found : layout pattern = .ok ⟨stem, groups.map Group.body⟩ := written.layout_eq
      have made := compile_of_layout found
      simp only [List.length_map, List.forall_mem_map, ne_eq, List.map_eq_nil_iff] at made
      exact ⟨stem, groups, written, fun _ _ => written.unique, found, made⟩
    · rw [split, isOpen_append_open plain] at closed
      cases closed
  · intro before behind split
    have part := Text.slice?_append [] before behind
    rw [split]
    refine ⟨part, fun plain begun => ?_⟩
    have written : Written before before [] := ⟨plain, nofun, (List.append_nil before).symm⟩
    exact written.layoutFrom_append (.inr begun)
  · intro before body behind split
    have part := Text.slice?_append (before ++ ['(']) body (')' :: behind)
    have paren : byteSize ['('] = 1 := rfl
    rw [Text.byteSize_append, paren] at part
    rw [split]
    exact ⟨by simpa using part, fun stem groups written plain => written.closed plain behind⟩

/-- Offsets count bytes, of which the first character has two. -/
example : compile "é(/b)/c" = .error (.textAfterGroup "é(/b)/c" 7) := by
  decide

end LinkRouting.Pattern
