import LinkRouting.Proofs.Text.Percent
import LinkRouting.Url.Parse

namespace LinkRouting.Url

variable {text host rest : List Char} {kind : SchemeKind} {scheme : String} {followed : Bool}

theorem mem_intercalate {mark c : Char} {pieces : List (List Char)}
    (member : c ∈ [mark].intercalate pieces) : c = mark ∨ ∃ piece ∈ pieces, c ∈ piece := by
  induction pieces with
  | nil => simp at member
  | cons piece rest ih =>
      cases rest with
      | nil => exact .inr ⟨piece, List.mem_cons_self, by simpa using member⟩
      | cons next others =>
          rw [List.intercalate_cons_cons, List.append_assoc, List.mem_append] at member
          rcases member with here | behind
          · exact .inr ⟨piece, List.mem_cons_self, here⟩
          · rcases List.mem_cons.mp behind with same | later
            · exact .inl same
            · refine (ih later).imp_right ?_
              rintro ⟨other, among, inside⟩
              exact ⟨other, List.mem_cons_of_mem piece among, inside⟩

theorem slash_not_mem_toDigits {base : Nat} (large : 1 < base) (number : Nat) :
    '/' ∉ Nat.toDigits base number := by
  induction number using Nat.strongRecOn with
  | ind number ih =>
      have digit (value : Nat) : value.digitChar ≠ '/' := Nat.digitChar_ne '/' rfl
      rw [Nat.toDigits_eq_if large]
      split
      · rw [List.mem_singleton]
        exact (digit number).symm
      · have smaller : number / base < number := Nat.div_lt_self (by omega) large
        rw [List.mem_append, List.mem_singleton, not_or]
        exact ⟨ih _ smaller, (digit (number % base)).symm⟩

theorem slash_not_mem_ipv4 (address : Nat) : '/' ∉ Ipv4.render address := by
  intro member
  rcases mem_intercalate member with same | ⟨piece, among, inside⟩
  · cases same
  · have decimal (number : Nat) : '/' ∉ (toString number).toList := by
      rw [Nat.toString_eq_repr, Nat.toList_repr]
      exact slash_not_mem_toDigits (by decide) number
    simp only [List.mem_cons, List.not_mem_nil, or_false] at among
    rcases among with rfl | rfl | rfl | rfl <;> exact decimal _ inside

theorem slash_not_mem_ipv6 (pieces : List Nat) : '/' ∉ Ipv6.render pieces := by
  have row (pieces : List Nat) : '/' ∉ [':'].intercalate (pieces.map Ipv6.hexText) := by
    intro member
    rcases mem_intercalate member with same | ⟨piece, among, inside⟩
    · cases same
    · obtain ⟨number, _, rfl⟩ := List.mem_map.mp among
      exact slash_not_mem_toDigits (by decide) number inside
  simp only [Ipv6.render]
  split
  · exact row pieces
  · intro member
    rcases List.mem_append.mp member with front | back
    · rcases List.mem_append.mp front with start | colons
      · exact row _ start
      · exact absurd colons (by decide)
    · exact row _ back

theorem slash_not_mem_bracketedHost (read : bracketedHost text = .ok host) : '/' ∉ host := by
  unfold bracketedHost at read
  split at read
  · split at read
    · rename_i pieces _
      cases read
      simp [slash_not_mem_ipv6 pieces]
    · cases read
  · cases read

theorem slash_not_mem_domainHost [Names] (read : domainHost text = .ok host) : '/' ∉ host := by
  unfold domainHost at read
  split at read
  · exact slash_not_mem_bracketedHost read
  · split at read
    · cases read
    · split at read
      · cases read
      · rename_i allowed
        split at read
        · cases read
        · split at read
          · split at read
            · cases read
              exact slash_not_mem_ipv4 _
            · cases read
          · cases read
            intro member
            exact allowed (List.any_eq_true.mpr ⟨'/', member, rfl⟩)

theorem slash_not_mem_freeHost (read : freeHost text = .ok host) : '/' ∉ host := by
  unfold freeHost at read
  split at read
  · exact slash_not_mem_bracketedHost read
  · split at read
    · cases read
    · rename_i allowed
      cases read
      intro member
      rcases Text.Percent.mem_encode member with ⟨inside, _⟩ | escape
      · exact allowed (List.any_eq_true.mpr ⟨'/', inside, rfl⟩)
      · exact absurd escape (by decide)

section Stages

variable {α β ε : Type} {cause : ε} {result : β} {condition : Prop} [Decidable condition]

theorem ok_of_guard {next : PUnit → Except ε β}
    (passed : (if condition then throw cause >>= next else next ⟨⟩) = .ok result) :
    next ⟨⟩ = .ok result := by
  split at passed
  · cases passed
  · exact passed

theorem ok_of_bind {first : Except ε α} {next : α → Except ε β}
    (passed : first >>= next = .ok result) : ∃ a, first = .ok a ∧ next a = .ok result := by
  cases first with
  | error cause => cases passed
  | ok a => exact ⟨a, rfl, passed⟩

theorem ok_of_choice {first second : Except ε α} {next : α → Except ε β}
    (passed : (if condition then first >>= next else second >>= next) = .ok result) :
    ∃ a, (if condition then first else second) = .ok a ∧ next a = .ok result := by
  by_cases chosen : condition
  · rw [if_pos chosen] at passed ⊢
    exact ok_of_bind passed
  · rw [if_neg chosen] at passed ⊢
    exact ok_of_bind passed

end Stages

/-- The host of an authority is read from a part of the text, and it alone decides on the host. -/
theorem host_of_readAuthority [Names] {authority : Authority}
    (read : readAuthority kind scheme text followed = .ok (authority, rest)) : ∃ hostText,
      (if kind.special then domainHost hostText else freeHost hostText) = .ok authority.host := by
  unfold readAuthority at read
  obtain ⟨credentials, address⟩ := (splitCredentials text).getD ([], text)
  obtain ⟨host, found, hosted⟩ := ok_of_choice (ok_of_guard (ok_of_guard read))
  obtain ⟨⟨port, behind⟩, _, ported⟩ := ok_of_choice (ok_of_guard hosted)
  have last := ok_of_guard ported
  have same : host = authority.host := congrArg (fun pair => pair.1.host) (Except.ok.inj last)
  exact ⟨_, same ▸ found⟩

theorem slash_not_mem_readAuthority [Names] {authority : Authority}
    (read : readAuthority kind scheme text followed = .ok (authority, rest)) :
    '/' ∉ authority.host := by
  obtain ⟨hostText, found⟩ := host_of_readAuthority read
  split at found
  · exact slash_not_mem_domainHost found
  · exact slash_not_mem_freeHost found

theorem slash_not_mem_locateHost [Names] {location : Location} {authority : Authority}
    (located : locateHost kind scheme text followed = .ok location)
    (known : location.authority = some authority) : '/' ∉ authority.host := by
  unfold locateHost at located
  simp only at located
  split at located
  · cases located
  · rename_i read
    split at located <;> cases located <;> cases known <;> exact slash_not_mem_readAuthority read

theorem slash_not_mem_locateFile [Names] {location : Location} {authority : Authority}
    (located : locateFile text = .ok location) (known : location.authority = some authority) :
    '/' ∉ authority.host := by
  unfold locateFile at located
  simp only at located
  split at located
  · cases located
    cases known
    exact List.not_mem_nil
  · split at located
    · cases located
    · rename_i found
      split at located
      · cases located
        cases known
        exact List.not_mem_nil
      · cases located
        cases known
        simp only
        split
        · exact List.not_mem_nil
        · exact slash_not_mem_domainHost found

theorem slash_not_mem_locate [Names] {location : Location} {authority : Authority}
    (located : locate kind scheme text followed = .ok location)
    (known : location.authority = some authority) : '/' ∉ authority.host := by
  cases kind with
  | network => exact slash_not_mem_locateHost located known
  | file =>
      unfold locate at located
      simp only at located
      split at located
      · exact slash_not_mem_locateFile located known
      · cases located
        cases known
        exact List.not_mem_nil
  | other =>
      unfold locate at located
      simp only at located
      split at located
      · exact slash_not_mem_locateHost located known
      · cases located
        cases known
      · cases located
        cases known

theorem ne_nil_of_host? {url : Url} (found : url.host? = some host) : host ≠ [] := by
  obtain ⟨_, filled⟩ := Option.filter_eq_some_iff.mp found
  rintro rfl
  cases filled

theorem slash_not_mem_host [Names] {source : String} {url : Url}
    (parsed : Url.parse source = .ok url) (found : url.host? = some host) : '/' ∉ host := by
  unfold Url.parse at parsed
  split at parsed
  · cases parsed
  · simp only at parsed
    split at parsed
    · cases parsed
    · rename_i location located
      cases parsed
      obtain ⟨some, _⟩ := Option.filter_eq_some_iff.mp found
      obtain ⟨authority, known, rfl⟩ := Option.map_eq_some_iff.mp some
      exact slash_not_mem_locate located known

end LinkRouting.Url
