import SshTemplate.Issue

/-!
# `Web` — documents from servers

An `https` source is asked for over the network. What servers answer, and whether an answer can be
had at all, is not up to this library; a `Client` is whatever decides it for the time of one run, so
an address that is asked for twice is answered twice in the same way. What is up to the library is
what becomes of an answer: its text is used only if the server reports success.
-/

set_option autoImplicit false

namespace SshTemplate

/-- What a server answers. -/
structure Response where
  status : Nat
  /-- The text, or why it could not be received, nearest cause first. -/
  body : Except (List String) String

/-- Whether the status is one of those that report success. -/
def Response.isSuccess (response : Response) : Bool :=
  200 ≤ response.status && response.status ≤ 299

/-- Asks the server of an address: there is an answer, or there are causes, nearest first, why there
    is none. -/
abbrev Client := String → Except (List String) Response

/-- The text of an address. -/
def Client.fetch (client : Client) (address : String) : Except FetchFailure String :=
  match client address with
  | .error causes => .error (.request causes)
  | .ok response =>
    if response.isSuccess then response.body.mapError .request
    else .error (.refused response.status)

/-- No server is reached, for the given causes. -/
def Client.unreachable (causes : String → List String) : Client := fun address =>
  .error (causes address)

/-- Texts come back for at most `limit` addresses. -/
def Client.Limited (client : Client) (limit : Nat) : Prop :=
  ∀ addresses : List String, addresses.Nodup →
    (∀ address ∈ addresses, ∃ reply, client.fetch address = .ok reply) → addresses.length ≤ limit

theorem Client.limited_unreachable (causes : String → List String) :
    (unreachable causes).Limited 0 := by
  rintro (_ | ⟨first, rest⟩) - hanswered
  · exact Nat.le_refl 0
  · obtain ⟨reply, hreply⟩ := hanswered first (by simp)
    cases hreply

end SshTemplate
