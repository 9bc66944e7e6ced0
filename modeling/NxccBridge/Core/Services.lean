import Mathlib.Data.List.Basic

/-!
# Services behind links

A service answers calls and keeps a state.  A link in front of it may lose a
request before it arrives, or the reply to it; the caller is told of the loss,
but not of which kind it was.
-/

namespace NxccBridge.Services

variable {State Call Reply Answer Loss : Type*}

/-- The calls one after the other, with the replies to them. -/
def serve (service : State → Call → State × Reply) :
    State → List Call → State × List Reply
  | state, [] => (state, [])
  | state, call :: rest =>
      let served := service state call
      let later := serve service served.1 rest
      (later.1, served.2 :: later.2)

@[simp]
theorem serve_nil (service : State → Call → State × Reply) (state : State) :
    serve service state [] = (state, []) := rfl

@[simp]
theorem serve_cons (service : State → Call → State × Reply) (state : State)
    (call : Call) (rest : List Call) :
    serve service state (call :: rest) =
      ((serve service (service state call).1 rest).1,
        (service state call).2 ::
          (serve service (service state call).1 rest).2) := rfl

/-- Where each call leads to the same state and the replies are related, so are
those of a run. -/
theorem serve_refines {Other : Type*} {concrete : State → Call → State × Reply}
    {abstract : State → Call → State × Other} {Shows : Other → Reply → Prop}
    (hstate : ∀ state call, (concrete state call).1 = (abstract state call).1)
    (hreply : ∀ state call,
      Shows (abstract state call).2 (concrete state call).2)
    (state : State) (calls : List Call) :
    (serve concrete state calls).1 = (serve abstract state calls).1 ∧
      List.Forall₂ Shows (serve abstract state calls).2
        (serve concrete state calls).2 := by
  induction calls generalizing state with
  | nil => exact ⟨rfl, List.Forall₂.nil⟩
  | cons call rest ih =>
      rw [serve_cons, serve_cons, hstate]
      have hrest := ih (abstract state call).1
      exact ⟨hrest.1, List.Forall₂.cons (hreply state call) hrest.2⟩

/-! ## Links -/

/-- What becomes of a call on its way. -/
inductive Fate (Loss : Type*)
  | delivered
  | requestLost (loss : Loss)
  | replyLost (loss : Loss)

def Fate.arrives : Fate Loss → Bool
  | .requestLost _ => false
  | .delivered | .replyLost _ => true

def Fate.returns : Fate Loss → Bool
  | .delivered => true
  | .requestLost _ | .replyLost _ => false

/-- A fallible handler behind the link. -/
def Fate.carry {Request Response : Type*} (fate : Fate Loss)
    (handler : State → Request → State × Except Loss Response) (state : State)
    (request : Request) : State × Except Loss Response :=
  match fate with
  | .delivered => handler state request
  | .requestLost loss => (state, .error loss)
  | .replyLost loss => ((handler state request).1, .error loss)

/-- The calls that reach the service. -/
def arriving (attempts : List (Fate Loss × Call)) : List Call :=
  (attempts.filter fun attempt => attempt.1.arrives).map Prod.snd

/-- What the caller hears: the replies of the service in their order, as it
reads them, and the losses between them. -/
def hear (lost : Loss → Answer) (read : Call → Reply → Answer) :
    List (Fate Loss × Call) → List Reply → List Answer
  | (.delivered, call) :: rest, reply :: replies =>
      read call reply :: hear lost read rest replies
  | (.replyLost loss, _) :: rest, _ :: replies =>
      lost loss :: hear lost read rest replies
  | (.requestLost loss, _) :: rest, replies =>
      lost loss :: hear lost read rest replies
  | _, _ => []

/-- A stub puts each call on the link and reads the reply that comes back, for
the calls that its messages can hold. -/
structure Stub (Sends : Call → Prop) (service : State → Call → State × Reply)
    (lost : Loss → Answer) (read : Call → Reply → Answer)
    (stub : State → Fate Loss × Call → State × Answer) : Prop where
  delivered : ∀ state call, Sends call → stub state (.delivered, call) =
    ((service state call).1, read call (service state call).2)
  requestLost : ∀ state call loss, stub state (.requestLost loss, call) =
    (state, lost loss)
  replyLost : ∀ state call loss, Sends call →
    stub state (.replyLost loss, call) = ((service state call).1, lost loss)

/-- Through a stub the service sees the calls that arrive, each once and in
their order, and nothing else. -/
theorem Stub.serve_eq {Sends : Call → Prop}
    {service : State → Call → State × Reply} {lost : Loss → Answer}
    {read : Call → Reply → Answer}
    {stub : State → Fate Loss × Call → State × Answer}
    (hstub : Stub Sends service lost read stub) (state : State)
    {attempts : List (Fate Loss × Call)}
    (hsends : ∀ attempt ∈ attempts, Sends attempt.2) :
    serve stub state attempts =
      ((serve service state (arriving attempts)).1,
        hear lost read attempts
          (serve service state (arriving attempts)).2) := by
  induction attempts generalizing state with
  | nil => rfl
  | cons attempt rest ih =>
      obtain ⟨fate, call⟩ := attempt
      obtain ⟨hcall, hrest⟩ := List.forall_mem_cons.mp hsends
      cases fate with
      | delivered =>
          have harriving : arriving ((.delivered, call) :: rest) =
              call :: arriving rest := rfl
          rw [harriving, serve_cons, serve_cons,
            hstub.delivered state call hcall, ih _ hrest, hear]
      | requestLost loss =>
          have harriving : arriving ((Fate.requestLost loss, call) :: rest) =
              arriving rest := rfl
          rw [harriving, serve_cons, hstub.requestLost, ih _ hrest, hear]
      | replyLost loss =>
          have harriving : arriving ((Fate.replyLost loss, call) :: rest) =
              call :: arriving rest := rfl
          rw [harriving, serve_cons, serve_cons,
            hstub.replyLost state call loss hcall, ih _ hrest, hear]

end NxccBridge.Services
