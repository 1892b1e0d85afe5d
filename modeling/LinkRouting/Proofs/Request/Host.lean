import LinkRouting.Proofs.Request
import LinkRouting.Proofs.Request.Fragment
import LinkRouting.Proofs.Url.Host

namespace LinkRouting.Request

variable {text host : List Char} {component : String} {url : Url}

/-- The components are the pieces of what is left without the slashes at the ends, if that is
anything. -/
theorem splitPath_cases (text : List Char) :
    Text.trimBoth (· == '/') text = [] ∧ splitPath text = [] ∨
      Text.trimBoth (· == '/') text ≠ [] ∧ splitPath text =
        ((Text.trimBoth (· == '/') text).splitOn '/').map String.ofList := by
  unfold splitPath
  by_cases nothing : Text.trimBoth (· == '/') text = []
  · exact .inl ⟨nothing, if_pos (List.isEmpty_iff.mpr nothing)⟩
  · exact .inr ⟨nothing, if_neg (mt List.isEmpty_iff.mp nothing)⟩

theorem slash_not_mem_of_mem_splitPath (member : component ∈ splitPath text) :
    '/' ∉ component.toList := by
  rcases splitPath_cases text with ⟨_, none⟩ | ⟨_, pieces⟩
  · rw [none] at member
    cases member
  · rw [pieces] at member
    obtain ⟨piece, among, rfl⟩ := List.mem_map.mp member
    rw [String.toList_ofList]
    exact Text.not_mem_of_mem_splitOn among

theorem head?_splitPath (text : List Char) : (splitPath text).head? ≠ some "" := by
  intro empty
  rcases splitPath_cases text with ⟨_, none⟩ | ⟨filled, pieces⟩
  · rw [none] at empty
    cases empty
  · rw [pieces, List.head?_map, Option.map_eq_some_iff] at empty
    obtain ⟨piece, first, nothing⟩ := empty
    rw [String.ofList_eq_empty_iff.mp nothing] at first
    rcases Text.head?_of_head?_splitOn first with none | slash
    · exact filled none
    · exact absurd (Text.head?_trimBoth _ slash) (by simp)

theorem getLast?_splitPath (text : List Char) : (splitPath text).getLast? ≠ some "" := by
  intro empty
  rcases splitPath_cases text with ⟨_, none⟩ | ⟨filled, pieces⟩
  · rw [none] at empty
    cases empty
  · rw [pieces, List.getLast?_map, Option.map_eq_some_iff] at empty
    obtain ⟨piece, last, nothing⟩ := empty
    rw [String.ofList_eq_empty_iff.mp nothing] at last
    rcases Text.getLast?_of_getLast?_splitOn last with none | slash
    · exact filled none
    · exact absurd (Text.getLast?_trimBoth _ slash) (by simp)

theorem intercalate_splitPath (text : List Char) : "/".intercalate (splitPath text) =
    String.ofList (Text.trimBoth (· == '/') text) := by
  apply String.toList_injective
  rw [String.toList_intercalate]
  rcases splitPath_cases text with ⟨nothing, none⟩ | ⟨_, pieces⟩
  · rw [none, nothing]
    rfl
  · have same : String.toList ∘ String.ofList = id := funext fun _ => String.toList_ofList
    rw [pieces, List.map_map, same, List.map_id]
    exact (List.intercalate_splitOn '/').trans String.toList_ofList.symm

/-- A host in front of a path is one more component. -/
theorem splitPath_host (some : host ≠ []) (free : '/' ∉ host) (text : List Char) :
    splitPath (host ++ '/' :: text.dropWhile (· == '/')) =
      String.ofList host :: splitPath text := by
  have kept : ∀ c ∈ host, (c == '/') = false :=
    fun c member => beq_eq_false_iff_ne.mpr fun same => free (same ▸ member)
  have trimmed := Text.trimBoth_append_of_kept some kept ('/' :: text.dropWhile (· == '/'))
  rw [List.reverse_cons, List.dropWhile_append] at trimmed
  have alone : host.splitOn '/' = [host] := List.splitOn_eq_singleton free
  have inner : Text.trimBoth (· == '/') text =
      ((text.dropWhile (· == '/')).reverse.dropWhile (· == '/')).reverse := rfl
  unfold splitPath
  rw [trimmed, inner]
  cases (text.dropWhile (· == '/')).reverse.dropWhile (· == '/') with
  | nil => simp [alone, some]
  | cons c rest => simp [List.splitOn_append_cons_self, alone]

/-- What the components are the pieces of: the path of a URL behind the host that counts as a
component, and then the path of the fragment. -/
def fullPath (hosted : Bool) (url : Url) : List Char :=
  let path :=
    match url.host? with
    | none => url.path
    | some host =>
        if hosted ∨ '.' ∉ host ∧ host ≠ "localhost".toList then
          host ++ '/' :: url.path.dropWhile (· == '/')
        else url.path
  path ++ FragmentParts.extension (url.fragment.getD [])

theorem isComponent_iff : isComponent host = true ↔ '.' ∉ host ∧ host ≠ "localhost".toList := by
  rw [isComponent, Bool.and_eq_true, decide_eq_true_eq, Bool.not_eq_true', List.contains_eq_mem,
    decide_eq_false_iff_not, and_comm]

theorem components_eq (source : String) (url : Url) (options : Options) (given : Params) :
    (ofUrl source url options given).components =
      splitPath (fullPath options.hostAsComponent url) := by
  cases found : url.host? with
  | none => simp only [ofUrl, hostedPath, fullPath, found, FragmentParts.pathEnd_eq_extension]
  | some host =>
      simp only [ofUrl, hostedPath, fullPath, found, FragmentParts.pathEnd_eq_extension,
        Bool.or_eq_true, isComponent_iff]

theorem extension_apart (fragment : List Char) :
    ∀ c ∈ (FragmentParts.extension fragment).head?, (c == '/') = false := by
  unfold FragmentParts.extension
  simp only
  split
  · simp
  · simp

theorem fullPath_inside (found : url.host? = some host)
    (inside : '.' ∉ host ∧ host ≠ "localhost".toList) :
    fullPath true url = fullPath false url := by
  simp only [fullPath, found, inside, ne_eq, not_false_eq_true, and_self, or_true, if_true]

/-- The slashes in front of the path stand behind the host then, where they count as one. -/
theorem splitPath_outside (found : url.host? = some host) (free : '/' ∉ host)
    (outside : '.' ∈ host ∨ host = "localhost".toList) :
    splitPath (fullPath true url) = String.ofList host :: splitPath (fullPath false url) := by
  let rest := url.path ++ FragmentParts.extension (url.fragment.getD [])
  have excluded : ¬('.' ∉ host ∧ host ≠ "localhost".toList) := by
    rintro ⟨dotless, distant⟩
    exact outside.elim dotless distant
  have without : fullPath false url = rest := by
    simp only [fullPath, found, Bool.false_eq_true, false_or, if_neg excluded, rest]
  have behind : fullPath true url = host ++ '/' :: rest.dropWhile (· == '/') := by
    have slashes := Text.dropWhile_append_of_head? (extension_apart (url.fragment.getD [])) url.path
    simp only [fullPath, found, true_or, if_true, rest, slashes, List.append_assoc,
      List.cons_append]
  rw [without, behind, splitPath_host (Url.ne_nil_of_host? found) free]

/-- The option puts a host in front of the components that is none without it, and it changes
nothing else.  The components are the pieces of the whole path. -/
theorem components_hosted [Url.Names] {text : String} (parsed : Url.parse text = .ok url)
    (source : String) (plus : Bool) (given : Params) :
    let request (hosted : Bool) := ofUrl source url ⟨plus, hosted⟩ given
    (request true).components =
      (match url.host? with
        | none => (request false).components
        | some host =>
            if '.' ∈ host ∨ host = "localhost".toList then
              String.ofList host :: (request false).components
            else (request false).components) ∧
    (request true).query = (request false).query ∧
    ∀ hosted,
      let components := (request hosted).components
      (∀ component ∈ components, '/' ∉ component.toList) ∧
        components.head? ≠ some "" ∧ components.getLast? ≠ some "" ∧
        "/".intercalate components =
          String.ofList (Text.trimBoth (· == '/') (fullPath hosted url)) := by
  intro request
  have components (hosted : Bool) :
      (request hosted).components = splitPath (fullPath hosted url) :=
    components_eq source url ⟨plus, hosted⟩ given
  simp only [components]
  refine ⟨?_, rfl, fun hosted => ⟨fun _ => slash_not_mem_of_mem_splitPath, head?_splitPath _,
    getLast?_splitPath _, intercalate_splitPath _⟩⟩
  cases found : url.host? with
  | none => simp only [fullPath, found]
  | some host =>
      simp only
      split
      · rename_i outside
        exact splitPath_outside found (Url.slash_not_mem_host parsed found) outside
      · rename_i inside
        rw [fullPath_inside found (not_or.mp inside)]

theorem components_hosted_forced : ∃ url,
    Url.parse "https://example.com//a//?k=1#/b/?c=2" = .ok url ∧
      (ofUrl "" url ⟨true, true⟩ .empty).components = ["example.com", "a", "", "#", "b"] ∧
      (ofUrl "" url ⟨true, false⟩ .empty).components = ["a", "", "#", "b"] := by
  let url : Url := ⟨"https", some ⟨[], "example.com".toList, none⟩, "//a//".toList,
    some "k=1".toList, some "/b/?c=2".toList⟩
  have parsed : Url.parse "https://example.com//a//?k=1#/b/?c=2" = .ok url := by rfl
  have without : (ofUrl "" url ⟨true, false⟩ .empty).components = ["a", "", "#", "b"] := by
    decide +kernel
  obtain ⟨hosted, _⟩ := components_hosted parsed "" true .empty
  refine ⟨url, parsed, hosted.trans ?_, without⟩
  rw [without]
  decide

end LinkRouting.Request
