import OnboardAutonomy.Histories

namespace LossyLink
set_option autoImplicit true

/-- Requests and replies in flight, and everything the far end has answered. A reply carries the
request it answers, which its receiver cannot see. -/
structure Link (ρ : Type u) (α : Type v) where
  requests : List ρ := []
  replies : List (ρ × α) := []
  answered : List (ρ × α) := []

/-- What happens to messages in flight: one is answered at the far end, or lost. Nothing is
duplicated or made up, and the order does not matter. -/
inductive Passing (ρ : Type u) (α : Type v) where
  | answer (request : ρ) (reply : α)
  | loseRequest (request : ρ)
  | loseReply (request : ρ) (reply : α)

namespace Link
variable [DecidableEq ρ] [DecidableEq α]

def send (l : Link ρ α) (request : Option ρ) : Link ρ α :=
  { l with requests := request.toList ++ l.requests }

/-- A reply arrives and is no longer in flight. -/
def take (l : Link ρ α) (x : ρ × α) : Link ρ α := { l with replies := l.replies.erase x }

def possible (l : Link ρ α) : Passing ρ α → Bool
  | .answer request _ | .loseRequest request => request ∈ l.requests
  | .loseReply request reply => (request, reply) ∈ l.replies

def pass (l : Link ρ α) : Passing ρ α → Link ρ α
  | .answer request reply => { l with
      requests := l.requests.erase request
      replies := (request, reply) :: l.replies
      answered := (request, reply) :: l.answered }
  | .loseRequest request => { l with requests := l.requests.erase request }
  | .loseReply request reply => l.take (request, reply)

/-- Every reply in flight was given by the far end. -/
def Genuine (l : Link ρ α) : Prop := l.replies ⊆ l.answered

theorem Genuine.take {l : Link ρ α} (hg : l.Genuine) (x : ρ × α) : (l.take x).Genuine :=
  List.Subset.trans List.erase_subset hg

theorem Genuine.pass {l : Link ρ α} (hg : l.Genuine) (p : Passing ρ α) : (l.pass p).Genuine := by
  cases p with
  | answer request reply => exact List.cons_subset_cons _ hg
  | loseRequest request => exact hg
  | loseReply request reply => exact hg.take _

theorem answered_pass (l : Link ρ α) (p : Passing ρ α) : l.answered ⊆ (l.pass p).answered := by
  cases p with
  | answer request reply => exact List.subset_cons_self _ _
  | loseRequest request => exact List.Subset.refl _
  | loseReply request reply => exact List.Subset.refl _

end Link
end LossyLink
