set_option autoImplicit false

/-! Work that depends on answers from outside, as data: either it is done, or it asks something and
says for every answer how it goes on. What was asked and answered can be reasoned about like any
other data, and any answers can be supplied when the work is run. -/

namespace GitDelivery

inductive Dialogue (Request : Type) (Reply : Request → Type) (α : Type) where
  | done (result : α)
  | ask (request : Request) (next : Reply request → Dialogue Request Reply α)

namespace Dialogue

variable {Request : Type} {Reply : Request → Type} {α β : Type}

def bind (first : Dialogue Request Reply α) (next : α → Dialogue Request Reply β) :
    Dialogue Request Reply β :=
  match first with
  | done result => next result
  | ask request answer => ask request fun reply => (answer reply).bind next

instance : Monad (Dialogue Request Reply) where
  pure := done
  bind := bind

def request (request : Request) : Dialogue Request Reply (Reply request) :=
  ask request done

def runWith {M : Type → Type} [Monad M] (answer : (request : Request) → M (Reply request)) :
    Dialogue Request Reply α → M α
  | done result => Pure.pure result
  | ask request next => do runWith answer (next (← answer request))

/-- The work ends with `result` after asking the requests of `history`, each with its answer. -/
inductive Ends : Dialogue Request Reply α → List ((request : Request) × Reply request) → α → Prop where
  | done (result : α) : Ends (done result) [] result
  | ask {request : Request} {next : Reply request → Dialogue Request Reply α}
      {reply : Reply request} {history : List ((request : Request) × Reply request)} {result : α} :
      Ends (next reply) history result → Ends (ask request next) (⟨request, reply⟩ :: history) result

end Dialogue

end GitDelivery
