import XsNexus.AddressText
import XsNexus.RolledOutUpdates

namespace XsNexus

open ByteCodec Checks

section Texts

theorem utf8_of_fromUTF8 {encoded : Bytes} {text : String}
    (h : String.fromUTF8? ⟨encoded.toArray⟩ = some text) : encoded = utf8 text := by
  unfold String.fromUTF8? at h
  split at h
  next hvalid =>
    cases h
    show encoded = encoded.toArray.toList
    rw [List.toList_toArray]
  next => simp at h

theorem toNat_of_isDigit {c : Char} (h : c.isDigit = true) : 48 ≤ c.toNat ∧ c.toNat ≤ 57 := by
  simp only [Char.isDigit, Bool.and_eq_true, decide_eq_true_eq] at h
  exact ⟨h.1, h.2⟩

theorem digitChar_of_isDigit {c : Char} (h : c.isDigit = true) : Nat.digitChar (c.toNat - 48) = c := by
  obtain ⟨hlow, hhigh⟩ := toNat_of_isDigit h
  have hc : Char.ofNat c.toNat = c := Char.ofNat_toNat c
  generalize c.toNat = code at hlow hhigh hc ⊢
  subst hc
  interval_cases code <;> rfl

/-- A number is written again as the digits it was read from, if they had no zero in front. -/
theorem toDigits_ofDigitChars {digits : List Char} (hne : digits ≠ [])
    (hall : ∀ c ∈ digits, c.isDigit = true) (hzero : 1 < digits.length → digits.head? ≠ some '0') :
    Nat.toDigits 10 (Nat.ofDigitChars 10 digits 0) = digits := by
  induction digits using List.reverseRecOn with
  | nil => exact absurd rfl hne
  | append_singleton front last ih =>
    have hlast : last.isDigit = true := hall last (by simp)
    obtain ⟨hlow, hhigh⟩ := toNat_of_isDigit hlast
    have hchar := digitChar_of_isDigit hlast
    have hvalue : Nat.ofDigitChars 10 (front ++ [last]) 0 =
        10 * Nat.ofDigitChars 10 front 0 + (last.toNat - 48) := by
      rw [Nat.ofDigitChars_append, Nat.ofDigitChars_cons, Nat.ofDigitChars_nil]
      rfl
    rw [hvalue]
    by_cases hfront : front = []
    · subst hfront
      rw [Nat.ofDigitChars_nil, Nat.toDigits_of_lt_base (by omega)]
      simpa using hchar
    · have hhead : front.head? ≠ some '0' := by
        have hlong := hzero (by
          have hpos := List.length_pos_of_ne_nil hfront
          simp
          omega)
        rwa [List.head?_append_of_ne_nil _ hfront] at hlong
      have hdigits := ih hfront (fun c hc => hall c (by simp [hc])) fun _ => hhead
      have hpositive : 0 < Nat.ofDigitChars 10 front 0 := by
        rcases Nat.eq_zero_or_pos (Nat.ofDigitChars 10 front 0) with hnone | hpos
        · rw [hnone] at hdigits
          rw [← hdigits] at hhead
          exact absurd rfl hhead
        · exact hpos
      have hdiv : (10 * Nat.ofDigitChars 10 front 0 + (last.toNat - 48)) / 10 =
          Nat.ofDigitChars 10 front 0 := by omega
      have hmod : (10 * Nat.ofDigitChars 10 front 0 + (last.toNat - 48)) % 10 = last.toNat - 48 := by omega
      rw [Nat.toDigits_of_base_le (by omega) (by omega), hdiv, hmod, hdigits, hchar]

theorem splitOnce_some {separator : Char} {text name value : List Char}
    (h : splitOnce separator text = some (name, value)) : text = name ++ separator :: value := by
  induction text generalizing name with
  | nil => simp [splitOnce] at h
  | cons c rest ih =>
    unfold splitOnce at h
    by_cases hc : c = separator
    · rw [if_pos hc] at h
      cases h
      rw [hc]
      rfl
    · rw [if_neg hc] at h
      obtain ⟨⟨front, back⟩, hrest, heq⟩ := Option.map_eq_some_iff.mp h
      cases heq
      rw [ih hrest]
      rfl

theorem fieldValue_ok {field value : List Char} {expectedName : String}
    (h : fieldValue field expectedName = .ok value) : field = expectedName.toList ++ '=' :: value := by
  unfold fieldValue at h
  split at h
  next => simp at h
  next name text hsplit =>
    obtain ⟨hgood, h⟩ := guard_ok.mp h
    cases h
    rw [splitOnce_some hsplit, not_not.mp (not_or.mp hgood).1]

theorem fieldValue_ne_nil {field value : List Char} {expectedName : String}
    (h : fieldValue field expectedName = .ok value) : value ≠ [] := by
  unfold fieldValue at h
  split at h
  next => simp at h
  next name text hsplit =>
    obtain ⟨hgood, h⟩ := guard_ok.mp h
    cases h
    exact (not_or.mp (not_or.mp hgood).2).1

theorem exactField_ok {field : List Char} {expectedName expectedValue : String}
    (h : exactField field expectedName expectedValue = .ok ()) :
    field = expectedName.toList ++ '=' :: expectedValue.toList := by
  obtain ⟨value, hvalue, h⟩ := bind_ok.mp h
  obtain ⟨hsame, _⟩ := guard_ok.mp h
  rw [fieldValue_ok hvalue, not_not.mp hsame]

end Texts

namespace ReleaseVersion

theorem parseDigits_some {digits : List Char} {limit n : Nat} (h : parseDigits digits limit = some n) :
    Nat.ofDigitChars 10 digits 0 = n ∧ n < limit := by
  unfold parseDigits at h
  dsimp only at h
  split at h
  next hlt =>
    cases h
    exact ⟨rfl, hlt⟩
  next => simp at h

theorem parseVersionComponent_some {component : List Char} {n : UInt32}
    (h : parseVersionComponent component = some n) : (decimalText n.toNat).toList = component := by
  unfold parseVersionComponent at h
  split at h
  next => simp at h
  next hgood =>
    obtain ⟨hne, hrest⟩ := not_or.mp hgood
    obtain ⟨hzero, hdigits⟩ := not_or.mp hrest
    obtain ⟨value, hvalue, heq⟩ := Option.map_eq_some_iff.mp h
    obtain ⟨hread, hlt⟩ := parseDigits_some hvalue
    have hword : n.toNat = value := by
      rw [← heq]
      exact UInt32.toNat_ofNat_of_lt' hlt
    have hall : ∀ c ∈ component, c.isDigit = true := by
      have hevery : component.all Char.isDigit = true := by simpa using hdigits
      exact List.all_eq_true.mp hevery
    rw [toList_decimalText, hword, ← hread]
    exact toDigits_ofDigitChars hne hall fun hlong hhead => hzero ⟨hlong, hhead⟩

/-- Only the text of a version is read as it. -/
theorem text_of_parse {value : String} {version : ReleaseVersion} (h : parse value = some version) :
    version.text = value := by
  unfold parse at h
  split at h
  next => simp at h
  next =>
    split at h
    next major minor patch hsplit =>
      obtain ⟨first, hfirst, h⟩ := Option.bind_eq_some_iff.mp h
      obtain ⟨second, hsecond, h⟩ := Option.bind_eq_some_iff.mp h
      obtain ⟨third, hthird, h⟩ := Option.bind_eq_some_iff.mp h
      cases h
      have hjoined : ['.'].intercalate (value.toList.splitOn '.') = value.toList :=
        List.intercalate_splitOn '.'
      rw [hsplit, ← parseVersionComponent_some hfirst, ← parseVersionComponent_some hsecond,
        ← parseVersionComponent_some hthird] at hjoined
      rw [← String.toList_inj, ← hjoined]
      simp [text, String.toList_append, List.intercalate, List.intersperse]
    next => simp at h

end ReleaseVersion

namespace LinuxReleaseManifest

/-- The nine lines of a manifest -/
def lines (manifest : LinuxReleaseManifest) : List (List Char) :=
  ["schema_version=1".toList, "product=xs-nexus".toList,
    "version=".toList ++ manifest.version.text.toList, "platform=linux".toList,
    "architecture=".toList ++ manifest.architecture.toList,
    "target=".toList ++ manifest.target.toList, "archive=".toList ++ manifest.archive.toList,
    "archive_size=".toList ++ (decimalText manifest.archiveSize.toNat).toList,
    "archive_sha256=".toList ++ manifest.archiveSha256.toList]

def text (manifest : LinuxReleaseManifest) : String :=
  String.ofList (['\n'].intercalate manifest.lines)

theorem lines_of_parseFields {fields : List (List Char)} {manifest : LinuxReleaseManifest}
    (h : parseFields fields = .ok manifest) : fields = manifest.lines := by
  unfold parseFields at h
  split at h
  next schemaVersion product versionField platform architectureField targetField archiveField
      archiveSizeField archiveSha256Field =>
    obtain ⟨_, hschema, h⟩ := bind_ok.mp h
    obtain ⟨_, hproduct, h⟩ := bind_ok.mp h
    obtain ⟨versionText, hversionText, h⟩ := bind_ok.mp h
    split at h
    next => simp at h
    next version hversion =>
      obtain ⟨_, hplatform, h⟩ := bind_ok.mp h
      obtain ⟨architecture, harchitecture, h⟩ := bind_ok.mp h
      obtain ⟨_, h⟩ := guard_ok.mp h
      obtain ⟨target, htarget, h⟩ := bind_ok.mp h
      obtain ⟨_, h⟩ := guard_ok.mp h
      obtain ⟨archive, harchive, h⟩ := bind_ok.mp h
      obtain ⟨_, h⟩ := guard_ok.mp h
      obtain ⟨archiveSizeText, hsizeText, h⟩ := bind_ok.mp h
      obtain ⟨hdigits, h⟩ := guard_ok.mp h
      split at h
      next => simp at h
      next archiveSize hsize =>
        obtain ⟨archiveSha256, hsha256, h⟩ := bind_ok.mp h
        obtain ⟨_, h⟩ := guard_ok.mp h
        cases h
        obtain ⟨hread, _⟩ := Option.filter_eq_some_iff.mp hsize
        obtain ⟨hvalue, hlt⟩ := ReleaseVersion.parseDigits_some hread
        obtain ⟨hzero, hall⟩ := not_or.mp hdigits
        have hevery : archiveSizeText.all Char.isDigit = true := by simpa using hall
        have hwritten : (decimalText (UInt64.ofNat archiveSize).toNat).toList = archiveSizeText := by
          rw [toList_decimalText, UInt64.toNat_ofNat_of_lt' hlt, ← hvalue]
          exact toDigits_ofDigitChars (fieldValue_ne_nil hsizeText) (List.all_eq_true.mp hevery)
            fun _ => hzero
        have hversionWritten := ReleaseVersion.text_of_parse hversion
        unfold lines
        dsimp only
        rw [hwritten, hversionWritten, exactField_ok hschema, exactField_ok hproduct,
          fieldValue_ok hversionText, exactField_ok hplatform, fieldValue_ok harchitecture,
          fieldValue_ok htarget, fieldValue_ok harchive, fieldValue_ok hsizeText, fieldValue_ok hsha256]
        simp only [String.toList_ofList]
        rfl
  next => simp at h

theorem text_of_parseText {chars : List Char} {manifest : LinuxReleaseManifest}
    (h : parseText chars = .ok manifest) :
    chars = manifest.text.toList ∨ chars = manifest.text.toList ++ ['\n'] := by
  unfold parseText at h
  obtain ⟨_, h⟩ := guard_ok.mp h
  have hjoined : ['\n'].intercalate
      ((if chars.getLast? = some '\n' then chars.dropLast else chars).splitOn '\n') = _ :=
    List.intercalate_splitOn '\n'
  rw [lines_of_parseFields h] at hjoined
  have htext : manifest.text.toList = if chars.getLast? = some '\n' then chars.dropLast else chars := by
    rw [← hjoined, text, String.toList_ofList]
  rw [htext]
  by_cases hlast : chars.getLast? = some '\n'
  · rw [if_pos hlast]
    exact Or.inr (List.dropLast_append_getLast? _ hlast).symm
  · rw [if_neg hlast]
    exact Or.inl rfl

theorem text_of_parse {encoded : Bytes} {manifest : LinuxReleaseManifest}
    (h : parse encoded = .ok manifest) :
    encoded = utf8 manifest.text ∨ encoded = utf8 (manifest.text ++ "\n") := by
  unfold parse at h
  obtain ⟨_, h⟩ := guard_ok.mp h
  split at h
  next => simp at h
  next text hdecoded =>
    have hencoded := utf8_of_fromUTF8 hdecoded
    rcases text_of_parseText h with hsame | hsame
    · refine Or.inl ?_
      rw [hencoded, String.toList_inj.mp hsame]
    · refine Or.inr ?_
      have heq : text = manifest.text ++ "\n" := by
        rw [← String.toList_inj, hsame, String.toList_append]
        rfl
      rw [hencoded, heq]

end LinuxReleaseManifest

/-- A version is read from its own text only, and a manifest from its own lines, with a newline at the
end or without. -/
theorem releaseTexts_canonical :
    (∀ value version, ReleaseVersion.parse value = some version → version.text = value) ∧
      (∀ version, ReleaseVersion.parse version.text = some version) ∧
      (∀ encoded manifest, LinuxReleaseManifest.parse encoded = .ok manifest →
        encoded = utf8 manifest.text ∨ encoded = utf8 (manifest.text ++ "\n")) ∧
      ∀ encoded encoded' manifest, LinuxReleaseManifest.parse encoded = .ok manifest →
        LinuxReleaseManifest.parse encoded' = .ok manifest →
          encoded = encoded' ∨ encoded = encoded' ++ utf8 "\n" ∨ encoded' = encoded ++ utf8 "\n" := by
  refine ⟨fun _ _ => ReleaseVersion.text_of_parse, ReleaseVersion.parse_text,
    fun _ _ => LinuxReleaseManifest.text_of_parse, ?_⟩
  intro encoded encoded' manifest h h'
  have hnewline := utf8_append manifest.text "\n"
  rcases LinuxReleaseManifest.text_of_parse h with hleft | hleft
  · rcases LinuxReleaseManifest.text_of_parse h' with hright | hright
    · exact Or.inl (hleft.trans hright.symm)
    · exact Or.inr (Or.inr (by rw [hright, hnewline, hleft]))
  · rcases LinuxReleaseManifest.text_of_parse h' with hright | hright
    · exact Or.inr (Or.inl (by rw [hleft, hnewline, hright]))
    · exact Or.inl (hleft.trans hright.symm)

theorem releaseTexts_canonical_sample :
    (ReleaseVersion.mk 1 2 3).text = "1.2.3" ∧
      (sampleManifest = utf8 sampleReleaseManifest.text ∨
        sampleManifest = utf8 (sampleReleaseManifest.text ++ "\n")) := by
  obtain ⟨hversion, _, hmanifest, hsame⟩ := releaseTexts_canonical
  have hparse := sampleManifest_parse.2.2
  have _ := hsame sampleManifest sampleManifest sampleReleaseManifest hparse hparse
  exact ⟨hversion "1.2.3" _ (by decide +kernel), hmanifest _ _ hparse⟩

end XsNexus
