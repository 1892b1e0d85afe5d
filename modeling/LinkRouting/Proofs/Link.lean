import LinkRouting.Proofs.Request

namespace LinkRouting

/-- What is not escaped in the URLs that are built. -/
def isUnreserved (c : Char) : Bool :=
  c.isAlphanum || c ∈ ['-', '_', '~', '.']

def escaped (text : String) : String :=
  String.ofList (Text.Percent.encode isUnreserved text.toList)

/-- The URL with these texts between the slashes of its path. -/
def link (scheme : String) (texts : List String) : String :=
  scheme ++ ":///" ++ "/".intercalate (texts.map escaped)

variable {c : Char} {text : String} {texts : List String}

theorem below_of_isUnreserved (kept : isUnreserved c = true) : c.toNat < 128 := by
  simp only [isUnreserved, Bool.or_eq_true, decide_eq_true_eq, List.mem_cons, List.not_mem_nil,
    or_false] at kept
  rcases kept with ascii | rfl | rfl | rfl | rfl
  · exact Text.below_of_isAlphanum ascii
  · decide
  · decide
  · decide
  · decide

theorem keepInPath_of_isUnreserved (kept : isUnreserved c = true) : Url.keepInPath c = true := by
  have checked : ∀ value ∈ List.range 128, isUnreserved (Char.ofNat value) = true →
      Url.keepInPath (Char.ofNat value) = true := by decide +kernel
  exact Text.of_below (P := fun c => isUnreserved c = true → Url.keepInPath c = true) checked
    (below_of_isUnreserved kept) kept

theorem mem_escaped (member : c ∈ (escaped text).toList) :
    isUnreserved c = true ∨ c ∈ "%0123456789ABCDEF".toList := by
  rw [escaped, String.toList_ofList] at member
  exact (Text.Percent.mem_encode member).imp_left And.right

theorem not_mem_escaped {mark : Char} (reserved : isUnreserved mark = false)
    (unused : mark ∉ "%0123456789ABCDEF".toList) : mark ∉ (escaped text).toList := by
  intro member
  rcases mem_escaped member with kept | used
  · rw [reserved] at kept
    cases kept
  · exact unused used

theorem slash_not_mem_escaped : '/' ∉ (escaped text).toList :=
  not_mem_escaped (by decide) (by decide)

theorem keepInPath_of_mem_escaped (member : c ∈ (escaped text).toList) :
    Url.keepInPath c = true := by
  have checked : "%0123456789ABCDEF".toList.all Url.keepInPath = true := by decide
  rcases mem_escaped member with kept | used
  · exact keepInPath_of_isUnreserved kept
  · exact List.all_eq_true.mp checked c used

theorem decode_escaped (text : String) :
    Text.Percent.decode (escaped text).toList = text.toList := by
  rw [escaped, String.toList_ofList, Text.Percent.decode_encode rfl]

theorem escaped_ne_empty (nonempty : text ≠ "") : (escaped text).toList ≠ [] := by
  rw [escaped, String.toList_ofList, Ne, Text.Percent.encode_eq_nil_iff rfl]
  exact mt String.toList_eq_nil_iff.mp nonempty

/-- A plus sign in a text is escaped, so it does not matter how plus signs are read. -/
theorem decodeComponent_escaped (text : String) (plus : Bool) :
    decodeComponent (escaped text) plus = text := by
  have absent : '+' ∉ (escaped text).toList := not_mem_escaped (by decide) (by decide)
  have same : (escaped text).toList.map (fun c => if c = '+' then ' ' else c) =
      (escaped text).toList := by
    refine (List.map_congr_left fun c member => if_neg ?_).trans (List.map_id _)
    rintro rfl
    exact absent member
  have read : String.ofList (Text.Percent.decode (escaped text).toList) = text := by
    rw [decode_escaped, String.ofList_toList]
  unfold decodeComponent
  cases plus with
  | true => simpa only [if_true, same] using read
  | false => exact read

theorem dotless_escaped (dotless : text ≠ "." ∧ text ≠ "..") :
    Url.isSingleDot (escaped text).toList = false ∧
      Url.isDoubleDot (escaped text).toList = false := by
  rw [← Bool.not_eq_true, ← Bool.not_eq_true]
  constructor
  · intro dot
    have read := Url.decode_of_isSingleDot dot
    rw [decode_escaped] at read
    exact dotless.1 (String.toList_injective read)
  · intro dots
    have read := Url.decode_of_isDoubleDot dots
    rw [decode_escaped] at read
    exact dotless.2 (String.toList_injective read)

theorem splitOn_joined (some : texts ≠ []) :
    ("/".intercalate (texts.map escaped)).toList.splitOn '/' =
      texts.map fun text => (escaped text).toList := by
  have joined : ("/".intercalate (texts.map escaped)).toList =
      ['/'].intercalate (texts.map fun text => (escaped text).toList) := by
    rw [String.toList_intercalate, List.map_map]
    rfl
  rw [joined, List.splitOn_intercalate]
  · intro piece member
    obtain ⟨text, _, rfl⟩ := List.mem_map.mp member
    exact slash_not_mem_escaped
  · exact mt List.map_eq_nil_iff.mp some

theorem verbatim_joined (dotless : ∀ text ∈ texts, text ≠ "." ∧ text ≠ "..") :
    Url.Verbatim ("/".intercalate (texts.map escaped)).toList := by
  cases texts with
  | nil => exact ⟨by simp, by simp [Url.isSingleDot, Url.isDoubleDot]⟩
  | cons first others =>
      have pieces := splitOn_joined (List.cons_ne_nil first others)
      refine ⟨fun c member => ?_, fun piece member => ?_⟩
      · have whole := List.mem_cons_of_mem '/' member
        rw [← Text.flatMap_splitOn, pieces, List.mem_flatMap] at whole
        obtain ⟨piece, written, inside⟩ := whole
        obtain ⟨text, _, rfl⟩ := List.mem_map.mp written
        rcases List.mem_cons.mp inside with rfl | later
        · rfl
        · exact keepInPath_of_mem_escaped later
      · rw [pieces] at member
        obtain ⟨text, written, rfl⟩ := List.mem_map.mp member
        exact dotless_escaped (dotless text written)

theorem splitPath_joined (nonempty : ∀ text ∈ texts, text ≠ "") :
    Request.splitPath ('/' :: ("/".intercalate (texts.map escaped)).toList) =
      texts.map escaped := by
  cases texts with
  | nil => rfl
  | cons first others =>
      have pieces := splitOn_joined (List.cons_ne_nil first others)
      rw [Request.splitPath_cons, pieces, List.map_map]
      · exact List.map_congr_left fun text _ => String.ofList_toList
      · rw [pieces]
        intro member
        obtain ⟨text, written, empty⟩ := List.mem_map.mp member
        exact escaped_ne_empty (nonempty text written) empty

theorem Request.parse_link [Url.Names] {scheme : String} (named : Url.IsScheme scheme.toList)
    (free : Url.SchemeKind.ofScheme scheme.toLower = .other)
    (nonempty : ∀ text ∈ texts, text ≠ "") (dotless : ∀ text ∈ texts, text ≠ "." ∧ text ≠ "..")
    (options : Options) (params : Params) : ∃ request : Request,
      Request.parse (link scheme texts) options params = .ok request ∧
        request.components = texts.map escaped := by
  obtain ⟨request, parsed, split⟩ :=
    Request.parse_of_verbatim named free (verbatim_joined dotless) options params
  rw [String.ofList_toList] at parsed
  exact ⟨request, parsed, split.trans (splitPath_joined nonempty)⟩

end LinkRouting
