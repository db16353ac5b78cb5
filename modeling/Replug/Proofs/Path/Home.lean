import Replug.Path

/-!
# Paths below the home directory

A path that begins at the home directory, once it is spelled out.  It is text if it was text before,
and it does not change any more where the home directory starts at the root.
-/

set_option autoImplicit false

namespace Replug

def Path.tilde : UInt8 := 0x7E

namespace Bytes

theorem text?_isSome_iff (b : Bytes) : b.text?.isSome ↔ ByteArray.IsValidUTF8 ⟨b.toArray⟩ := by
  simp only [text?, String.fromUTF8?]
  split
  · next valid => simpa using valid
  · next invalid => simpa using invalid

theorem text?_append {b b' : Bytes} (first : b.text?.isSome) (second : b'.text?.isSome) :
    (b ++ b').text?.isSome := by
  rw [text?_isSome_iff] at first second ⊢
  have joined : (⟨(b ++ b').toArray⟩ : ByteArray) = ⟨b.toArray⟩ ++ ⟨b'.toArray⟩ := by
    apply ByteArray.ext
    simp
  rw [joined]
  exact first.append second

theorem text?_behind_tilde {rest : Bytes} (whole : (text? (Path.tilde :: rest)).isSome) :
    rest.text?.isSome := by
  rw [text?_isSome_iff] at whole ⊢
  have split : (⟨(Path.tilde :: rest).toArray⟩ : ByteArray) = ['~'].utf8Encode ++ ⟨rest.toArray⟩ := by
    apply ByteArray.ext
    simp [List.utf8Encode, String.utf8EncodeChar, Path.tilde]
  rw [split] at whole
  exact ByteArray.isValidUTF8_utf8Encode_singleton_append_iff.mp whole

end Bytes

namespace Path

theorem isEmpty_iff (p : Path) : p.isEmpty = true ↔ p = ⟨[]⟩ := by
  obtain ⟨bytes⟩ := p
  simp [isEmpty]

/-- A path is left as it is, or it is text behind a tilde and the home directory takes its place. -/
theorem expandHome_cases (home : Bytes) (p : Path) : p.expandHome home = p ∨
    ∃ rest, p.bytes = tilde :: rest ∧ home.text?.isSome ∧ p.text?.isSome ∧
      p.expandHome home = ⟨home ++ rest⟩ := by
  unfold expandHome
  split
  · next s t isText homeIsText =>
      split
      · next rest begins =>
          split
          · exact .inr ⟨rest, begins, by simp [homeIsText], by simp [isText], rfl⟩
          · exact .inl rfl
      · exact .inl rfl
  · exact .inl rfl

theorem text?_expandHome (home : Bytes) {p : Path} (isText : p.text?.isSome) :
    (p.expandHome home).text?.isSome := by
  obtain kept | ⟨rest, begins, homeIsText, -, expanded⟩ := p.expandHome_cases home
  · rwa [kept]
  · rw [expanded]
    rw [text?, begins] at isText
    exact Bytes.text?_append homeIsText (Bytes.text?_behind_tilde isText)

theorem expandHome_of_no_tilde (home : Bytes) {p : Path} (other : p.bytes.head? ≠ some tilde) :
    p.expandHome home = p := by
  obtain kept | ⟨rest, begins, -⟩ := p.expandHome_cases home
  · exact kept
  · rw [begins, List.head?_cons] at other
    exact absurd rfl other

/-- A home directory that starts at the root is put in at most once. -/
theorem expandHome_expandHome {home : Bytes} (rooted : home.head? = some slash) (p : Path) :
    (p.expandHome home).expandHome home = p.expandHome home := by
  obtain kept | ⟨rest, -, -, -, expanded⟩ := p.expandHome_cases home
  · rw [kept, kept]
  · rw [expanded]
    have head : (home ++ rest).head? = some slash := by
      rw [List.head?_append, rooted, Option.some_or]
    apply expandHome_of_no_tilde
    rw [head]
    decide

theorem expandHome_of_no_text {home : Bytes} (noText : home.text? = none) (p : Path) :
    p.expandHome home = p := by
  obtain kept | ⟨-, -, homeIsText, -⟩ := p.expandHome_cases home
  · exact kept
  · rw [noText] at homeIsText
    cases homeIsText

theorem expandHome_ne_nil {home : Bytes} (somewhere : home ≠ []) {p : Path} (named : p ≠ ⟨[]⟩) :
    p.expandHome home ≠ ⟨[]⟩ := by
  obtain kept | ⟨rest, -, -, -, expanded⟩ := p.expandHome_cases home
  · rwa [kept]
  · rw [expanded]
    simp [somewhere]

end Path

end Replug
