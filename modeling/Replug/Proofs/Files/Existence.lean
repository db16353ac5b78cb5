import Replug.Proofs.Files.Directories

/-!
# What does not exist

A path exists if it leads to something.  A link whose own path leads nowhere does not make the path to
the link exist, and neither does a path exist that would go on from something that is no directory.
-/

set_option autoImplicit false

namespace Replug.Files

variable {files : Files} {p : Path} {links : Nat} {place : Location} {names more : List Bytes}
  {d : Destination}

/-- Whatever names lead to behind a directory, they lead to it from there. -/
theorem Leads.behind {between : Location} (leads : Leads files links place (names ++ more) d)
    (part : Leads files links place names (.found between .directory)) :
    ∃ links', Leads files links' between more d := by
  -- Both ways take the same turns as long as they have names in common.
  generalize ends : Destination.found between .directory = b at part
  induction part with
  | arrived here =>
      cases ends
      exact ⟨_, leads⟩
  | @up _ _ rest _ inside later ih =>
      rw [List.cons_append] at leads
      generalize same : rest ++ more = tail at leads
      cases leads with
      | up _ onward => exact ih (same ▸ onward) ends
      | down enters => exact absurd rfl enters.named
      | link enters => exact absurd rfl enters.named
      | vacant enters => exact absurd rfl enters.named
  | @down _ _ _ rest _ _ enters next noLink later ih =>
      rw [List.cons_append] at leads
      generalize same : rest ++ more = tail at leads
      cases leads with
      | up => exact absurd rfl enters.named
      | down _ _ _ onward => exact ih (same ▸ onward) ends
      | link _ next' _ =>
          rw [next] at next'
          exact absurd (Option.some.inj next') (noLink _)
      | vacant _ free =>
          rw [next] at free
          cases free
  | @link _ _ _ rest target _ enters next later ih =>
      rw [List.cons_append] at leads
      generalize same : rest ++ more = tail at leads
      cases leads with
      | up => exact absurd rfl enters.named
      | down _ next' noLink _ =>
          rw [next] at next'
          exact absurd (Option.some.inj next').symm (noLink _)
      | link _ next' onward =>
          rw [next] at next'
          cases next'
          rw [← same, ← List.append_assoc] at onward
          exact ih onward ends
      | vacant _ free =>
          rw [next] at free
          cases free
  | vacant => cases ends

end Replug.Files
