import SshTemplate.Source
import SshTemplate.Dictionary

/-!
# `Document.Fetcher` — where the texts of sources come from

Reading a document asks a fetcher for the text of each included source. Nothing is assumed about
the texts, so documents may include each other in any way; what makes reading end is that a fetcher
knows only finitely many texts of sources that it has an answer for. That number is the field
`limit`, with its proof: a chain of documents being read, all different, cannot be longer.
-/

set_option autoImplicit false

namespace SshTemplate

/-- A source of texts that can answer for at most `limit` different source texts. -/
structure Fetcher where
  fetch : Source → Except FetchFailure String
  limit : Nat
  limited : ∀ answered : List String, answered.Nodup →
    (∀ text ∈ answered, ∃ source reply, source.text = text ∧ fetch source = .ok reply) →
    answered.length ≤ limit

namespace Fetcher

/-- A list without repetitions is no longer than a list that holds all its elements. -/
theorem length_le_of_nodup_of_subset {α : Type} [DecidableEq α] {as bs : List α} (h : as.Nodup)
    (hs : ∀ a ∈ as, a ∈ bs) : as.length ≤ bs.length := by
  induction as generalizing bs with
  | nil => exact Nat.zero_le _
  | cons a rest ih =>
    obtain ⟨ha, hrest⟩ := List.nodup_cons.1 h
    have hmem : a ∈ bs := hs a (by simp)
    have hle : rest.length ≤ (bs.erase a).length := by
      refine ih hrest fun b hb => ?_
      have hne : b ≠ a := fun e => ha (e ▸ hb)
      exact (List.mem_erase_of_ne hne).2 (hs b (by simp [hb]))
    have hlen := List.length_erase_of_mem hmem
    have hpos := List.length_pos_of_mem hmem
    simp only [List.length_cons]
    omega

/-- Answers from memory: `answers` maps the text of a source to what comes back for it. Unknown
    `https` sources are refused as missing, and any other unknown source is a missing file. -/
def ofDictionary (answers : Dictionary String (Except FetchFailure String)) : Fetcher where
  fetch source :=
    match answers.get? source.text, source with
    | some answer, _ => answer
    | none, .https _ => .error (.refused 404)
    | none, _ => .error (.file .notFound)
  limit := answers.keys.length
  limited := by
    intro answered hnodup hanswered
    refine length_le_of_nodup_of_subset hnodup fun text htext => ?_
    obtain ⟨source, reply, hsource, hreply⟩ := hanswered text htext
    rw [hsource] at hreply
    cases hget : answers.get? text with
    | some answer =>
      unfold Dictionary.get? at hget
      obtain ⟨entry, hentry, -⟩ := Option.map_eq_some_iff.1 hget
      have hkey := List.find?_some hentry
      simp only [decide_eq_true_eq] at hkey
      exact List.mem_map.2 ⟨entry, List.mem_of_find?_eq_some hentry, hkey⟩
    | none =>
      rw [hget] at hreply
      cases source <;> simp at hreply

end Fetcher
end SshTemplate
