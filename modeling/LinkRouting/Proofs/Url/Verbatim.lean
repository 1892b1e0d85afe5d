import LinkRouting.Proofs.Text.Chars
import LinkRouting.Proofs.Text.Percent
import LinkRouting.Proofs.Text.Split
import LinkRouting.Proofs.Text.Trim
import LinkRouting.Url.Parse

namespace LinkRouting.Url

variable {c : Char} {text : List Char}

/-- What can stand before the colon. -/
structure IsScheme (text : List Char) : Prop where
  letter : text.head?.any Char.isAlpha = true
  allowed : ∀ c ∈ text, isSchemeChar c = true

/-- What stays as it is when it is read as the path behind a slash. -/
structure Verbatim (text : List Char) : Prop where
  kept : ∀ c ∈ text, keepInPath c = true
  dotless : ∀ piece ∈ text.splitOn '/', isSingleDot piece = false ∧ isDoubleDot piece = false

theorem above_of_refused {allowed : Char → Bool}
    (refused : ∀ value ∈ List.range 33, allowed (Char.ofNat value) = false)
    (member : allowed c = true) : 0x20 < c.toNat := by
  by_contra low
  have outside : allowed c = false :=
    Text.of_below (P := fun c => allowed c = false) refused (by omega)
  rw [member] at outside
  cases outside

theorem above_of_isSchemeChar : isSchemeChar c = true → 0x20 < c.toNat :=
  above_of_refused (by decide)

theorem above_of_keepInPath : keepInPath c = true → 0x20 < c.toNat :=
  above_of_refused (by decide)

theorem withoutBreaks_of_above (above : ∀ c ∈ text, 0x20 < c.toNat) :
    Text.withoutBreaks text = text := by
  refine List.filter_eq_self.mpr fun c member => ?_
  have visible := above c member
  rw [Bool.not_eq_true']
  by_contra found
  simp only [Text.isBreak, Bool.not_eq_false, Bool.or_eq_true, beq_iff_eq] at found
  rcases found with (rfl | rfl) | rfl <;> exact absurd visible (by decide)

theorem trimBoth_of_above (above : ∀ c ∈ text, 0x20 < c.toNat) :
    Text.trimBoth (fun c => c.toNat ≤ 0x20) text = text := by
  refine Text.trimBoth_of_ends (fun c found => ?_) fun c found => ?_
  · have visible := above c (List.mem_of_mem_head? found)
    exact decide_eq_false (by omega)
  · have visible := above c (List.mem_of_mem_getLast? found)
    exact decide_eq_false (by omega)

theorem digitValue?_of_toLower (same : c.toLower = 'e') : Text.digitValue? c = some 14 := by
  rcases Text.toLower_cases c with whole | ⟨_, _, raised⟩
  · rw [← whole, same]
    rfl
  · rw [same] at raised
    have number : c.toNat = 69 := by simpa using raised.symm
    have upper : c = 'E' := Char.toNat_inj.mp number
    rw [upper]
    rfl

/-- Whatever spells a dot stands for one. -/
theorem bytes_of_isSingleDot (dot : isSingleDot text = true) (rest : List Char) :
    Text.Percent.bytes (text ++ rest) = 0x2E :: Text.Percent.bytes rest := by
  have spelled : text.map Char.toLower = ['.'] ∨ text.map Char.toLower = ['%', '2', 'e'] := by
    simpa [isSingleDot] using dot
  rcases spelled with plain | escaped
  · obtain ⟨mark, rfl, same⟩ := List.map_eq_singleton_iff.mp plain
    have period : mark = '.' := Text.eq_of_toLower (by decide) same
    rw [period, List.singleton_append, Text.Percent.bytes_cons (by decide)]
    rfl
  · obtain ⟨mark, _, rfl, percent, digits⟩ := List.map_eq_cons_iff.mp escaped
    obtain ⟨high, _, rfl, two, digit⟩ := List.map_eq_cons_iff.mp digits
    obtain ⟨low, rfl, fourteen⟩ := List.map_eq_singleton_iff.mp digit
    have signed : mark = '%' := Text.eq_of_toLower (by decide) percent
    have second : high = '2' := Text.eq_of_toLower (by decide) two
    have value : Text.digitValue? '2' = some 2 := by decide
    rw [signed, second]
    simp only [List.cons_append, List.nil_append, Text.Percent.bytes, value,
      digitValue?_of_toLower fourteen]
    rfl

theorem exists_of_isDoubleDot (dots : isDoubleDot text = true) : ∃ first second,
    isSingleDot first = true ∧ isSingleDot second = true ∧ text = first ++ second := by
  have spelled : ∃ first ∈ [".", "%2e"].map String.toList,
      ∃ second ∈ [".", "%2e"].map String.toList, text.map Char.toLower = first ++ second := by
    simpa [isDoubleDot, or_assoc, or_left_comm] using dots
  obtain ⟨first, firstDot, second, secondDot, lower⟩ := spelled
  obtain ⟨before, behind, rfl, rfl, rfl⟩ := List.map_eq_append_iff.mp lower
  exact ⟨before, behind, decide_eq_true firstDot, decide_eq_true secondDot, rfl⟩

theorem decode_of_isSingleDot (dot : isSingleDot text = true) :
    Text.Percent.decode text = ['.'] := by
  have written := bytes_of_isSingleDot dot []
  rw [List.append_nil] at written
  rw [Text.Percent.decode, written]
  decide

theorem decode_of_isDoubleDot (dots : isDoubleDot text = true) :
    Text.Percent.decode text = ['.', '.'] := by
  obtain ⟨first, second, firstDot, secondDot, rfl⟩ := exists_of_isDoubleDot dots
  have written := bytes_of_isSingleDot secondDot []
  rw [List.append_nil] at written
  rw [Text.Percent.decode, bytes_of_isSingleDot firstDot, written]
  decide

theorem splitScheme?_append (scheme : IsScheme text) (rest : List Char) :
    splitScheme? (text ++ ':' :: rest) = some (String.ofList (text.map Char.toLower), rest) := by
  have absent : ':' ∉ text := by
    intro member
    have allowed := scheme.allowed ':' member
    cases allowed
  have clean : Text.withoutBreaks text = text :=
    withoutBreaks_of_above fun c member => above_of_isSchemeChar (scheme.allowed c member)
  have named : (text.head?.any Char.isAlpha && text.all isSchemeChar) = true := by
    rw [scheme.letter, Bool.true_and, List.all_eq_true]
    exact scheme.allowed
  simp only [splitScheme?, Text.cut_append absent, clean, named, if_true]

theorem segmentOf_of_kept (kept : ∀ c ∈ text, keepInPath c = true) : segmentOf text = text := by
  rw [segmentOf, withoutBreaks_of_above fun c member => above_of_keepInPath (kept c member),
    encodePath, Text.Percent.encode_of_kept kept]

theorem Trail.follow_of_kept {before : List (List Char)}
    (kept : ∀ c ∈ text, keepInPath c = true)
    (dotless : isSingleDot text = false ∧ isDoubleDot text = false) :
    Trail.follow .other ⟨before, false⟩ text = ⟨before ++ [text], false⟩ := by
  simp only [follow, enter, segmentOf_of_kept kept, dotless, Bool.false_eq_true, if_false,
    reduceCtorEq, false_and]

theorem Trail.foldl_follow {pieces : List (List Char)} (before : List (List Char))
    (kept : ∀ piece ∈ pieces, ∀ c ∈ piece, keepInPath c = true)
    (dotless : ∀ piece ∈ pieces, isSingleDot piece = false ∧ isDoubleDot piece = false) :
    pieces.foldl (Trail.follow .other) ⟨before, false⟩ = ⟨before ++ pieces, false⟩ := by
  induction pieces generalizing before with
  | nil => simp
  | cons piece rest ih =>
      rw [List.foldl_cons,
        follow_of_kept (kept piece List.mem_cons_self) (dotless piece List.mem_cons_self),
        ih _ (fun other member => kept other (List.mem_cons_of_mem piece member))
          (fun other member => dotless other (List.mem_cons_of_mem piece member)),
        List.append_assoc, List.singleton_append]

theorem pathOf_of_verbatim (verbatim : Verbatim text) : pathOf .other text = '/' :: text := by
  have slash : SchemeKind.other.slash = (· == '/') := by
    funext c
    exact Bool.or_false _
  have kept : ∀ piece ∈ text.splitOn '/', ∀ c ∈ piece, keepInPath c = true := by
    intro piece member c inside
    rcases List.mem_cons.mp (Text.mem_of_mem_splitOn member inside) with rfl | later
    · rfl
    · exact verbatim.kept c later
  have trail := Trail.foldl_follow [] kept verbatim.dotless
  have last : ((text.splitOn '/').getLast?.any isDots) = false := by
    cases ending : (text.splitOn '/').getLast? with
    | none => rfl
    | some piece =>
        have member := List.mem_of_getLast? ending
        have dotless := verbatim.dotless piece member
        rw [Option.any_some, isDots, segmentOf_of_kept (kept piece member), dotless.1, dotless.2]
        rfl
  simp only [pathOf, Trail.ofChars, slash, ← List.splitOn_eq_splitOnP, trail, last]
  exact Text.flatMap_splitOn '/' text

theorem readAuthority_nil [Names] (scheme : String) (followed : Bool) :
    readAuthority .other scheme [] followed = .ok (⟨[], [], none⟩, []) := by
  have port : (if none = defaultPort? scheme then none else none : Option Nat) = none := ite_self _
  change Except.ok ((⟨[], [], _⟩ : Authority), ([] : List Char)) = _
  rw [port]

theorem locate_of_verbatim [Names] (scheme : String) (verbatim : Verbatim text) :
    locate .other scheme ('/' :: '/' :: '/' :: text) false =
      .ok ⟨some ⟨[], [], none⟩, '/' :: text⟩ := by
  have clean : Text.withoutBreaks ('/' :: '/' :: '/' :: text) = '/' :: '/' :: '/' :: text := by
    refine withoutBreaks_of_above fun c member => ?_
    simp only [List.mem_cons] at member
    rcases member with rfl | rfl | rfl | later
    · decide
    · decide
    · decide
    · exact above_of_keepInPath (verbatim.kept c later)
  have inside : ('/' :: text).takeWhile (fun c => !SchemeKind.other.endsAuthority c) = [] := rfl
  have behind : behindSlash .other ('/' :: text) = text := rfl
  simp only [locate, clean, locateHost, inside, List.length_nil, List.drop_zero, readAuthority_nil,
    List.nil_append, behind, pathOf_of_verbatim verbatim, List.isEmpty_cons, Bool.false_eq_true,
    false_and, if_false]

/-- The scheme counts in lower case, and everything else is as it is written. -/
theorem parse_of_verbatim [Names] {scheme : String} (named : IsScheme scheme.toList)
    (free : SchemeKind.ofScheme scheme.toLower = .other) (verbatim : Verbatim text) :
    Url.parse (scheme ++ ":///" ++ String.ofList text) =
      .ok ⟨scheme.toLower, some ⟨[], [], none⟩, '/' :: text, none, none⟩ := by
  have chars : (scheme ++ ":///" ++ String.ofList text).toList =
      scheme.toList ++ ':' :: '/' :: '/' :: '/' :: text := by
    simp only [String.toList_append, String.toList_ofList, List.append_assoc]
    rfl
  have above : ∀ c ∈ scheme.toList ++ ':' :: '/' :: '/' :: '/' :: text, 0x20 < c.toNat := by
    intro c member
    simp only [List.mem_append, List.mem_cons] at member
    rcases member with inside | rfl | rfl | rfl | rfl | later
    · exact above_of_isSchemeChar (named.allowed c inside)
    · decide
    · decide
    · decide
    · decide
    · exact above_of_keepInPath (verbatim.kept c later)
  have lower : String.ofList (scheme.toList.map Char.toLower) = scheme.toLower := by
    rw [← Text.toList_toLower, String.ofList_toList]
  have absent (mark : Char) (refused : keepInPath mark = false) (other : mark ≠ '/') :
      mark ∉ '/' :: '/' :: '/' :: text := by
    intro member
    simp only [List.mem_cons, other, false_or] at member
    rw [verbatim.kept mark member] at refused
    cases refused
  have noFragment := Text.cut_of_not_mem (absent '#' rfl (by decide))
  have noQuery := Text.cut_of_not_mem (absent '?' rfl (by decide))
  simp only [Url.parse, chars, trimBoth_of_above above, splitScheme?_append named, lower, free,
    noFragment, noQuery, Option.isSome_none, Bool.or_false, locate_of_verbatim _ verbatim,
    Option.map_none]

end LinkRouting.Url
