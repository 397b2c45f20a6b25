import LiveCounter.Proofs.Requests

/-!
# Clients do not interfere with each other

Two runs of a server are compared that look the same to somebody who does not see one of the
sessions. The client of that session may treat its writes in any way, read as much as it likes and
leave when it likes; the session may then close at different times and for different reasons, or
not at all. As long as no stream is refused for want of a slot, all other sessions and their clients
are the same after both runs.
-/

namespace LiveCounter

namespace Hub

/-- Whether an operation opens a stream with a client. -/
def Operation.isConnect : Operation → Bool
  | .connect .. => true
  | _ => false

/-- An operation, with the client of session `x` left out. -/
def masked (x : Nat) (hub : Hub) : Operation → Operation
  | .connect topic id transport initial =>
    .connect topic id (if hub.connections.length = x then .channel 0 else transport) initial
  | operation => operation

/-- A mask does not hide that a stream is opened. -/
theorem isConnect_masked (x : Nat) (hub : Hub) (operation : Operation) :
    (hub.masked x operation).isConnect = operation.isConnect := by
  cases operation <;> rfl

/-- A mask hides a client only. -/
theorem masked_of_not_isConnect (x : Nat) (hub : Hub) {operation : Operation}
    (h : operation.isConnect = false) : hub.masked x operation = operation := by
  cases operation with
  | connect => cases h
  | _ => rfl

/-- Operations that look the same are the same, but for the client of session `x`. -/
theorem masked_cases {x : Nat} {hub hub' : Hub} {operation operation' : Operation}
    (h : hub.masked x operation = hub'.masked x operation') :
    operation = operation' ∨ ∃ topic id transport transport' initial,
      operation = .connect topic id transport initial ∧
      operation' = .connect topic id transport' initial ∧
      (hub.connections.length = hub'.connections.length →
        hub.connections.length ≠ x → transport = transport') := by
  have hconnect : operation.isConnect = operation'.isConnect := by
    rw [← isConnect_masked x hub, h, isConnect_masked]
  cases hleft : operation.isConnect with
  | false =>
    rw [hleft] at hconnect
    rw [masked_of_not_isConnect x hub hleft, masked_of_not_isConnect x hub' hconnect.symm] at h
    exact Or.inl h
  | true =>
    rw [hleft] at hconnect
    cases operation with
    | connect topic id transport initial =>
      cases operation' with
      | connect topic' id' transport' initial' =>
        simp only [masked, Operation.connect.injEq] at h
        obtain ⟨rfl, rfl, htransport, rfl⟩ := h
        refine Or.inr ⟨_, _, _, _, _, rfl, rfl, fun hlength hne => ?_⟩
        rwa [if_neg hne, if_neg (hlength ▸ hne)] at htransport
      | _ => cases hconnect
    | _ => cases hleft

/-- Alike hubs stay alike when both take an operation that looks the same. -/
theorem Alike.step_masked {x : Nat} {hub hub' : Hub} (h : Alike x hub hub')
    {operation operation' : Operation} (hregular : operation.isRegular = true)
    (hmasked : hub.masked x operation = hub'.masked x operation') :
    Alike x (hub.step operation) (hub'.step operation') := by
  rcases masked_cases hmasked with rfl | ⟨topic, id, transport, transport', initial, rfl, rfl, hsame⟩
  · exact h.step operation hregular
  · exact (h.connect topic id transport transport' initial hsame).1

end Hub

namespace Server

/-- One operation of a run of a server. -/
inductive Operation where
  | hub (operation : Hub.Operation)
  | settle
  | advance (millis : Nat)
  | stop (timeout : Duration)
  | cancel
  | stopGracefully (tasks : List Nat) (timeout : Duration)
  | request (request : Http.Request) (circumstances : Http.Circumstances)

/-- Whether an operation goes through the hub and not around it. -/
def Operation.isRegular : Operation → Bool
  | .hub operation => operation.isRegular
  | _ => true

/-- The server after an operation. -/
def step (server : Server) : Operation → Server
  | .hub operation => { server with hub := server.hub.step operation }
  | .settle => { server with hub := server.hub.settle }
  | .advance millis => { server with hub := server.hub.advance millis }
  | .stop timeout => { server with hub := (server.hub.stop timeout).2 }
  | .cancel => server.cancel
  | .stopGracefully tasks timeout => (server.stopGracefully tasks timeout).2
  | .request request circumstances => (Http.handle server request circumstances).2

/-- The server after a run. -/
def run (server : Server) (operations : List Operation) : Server :=
  operations.foldl step server

/-- A run can be made in two parts. -/
theorem run_append (server : Server) (first second : List Operation) :
    server.run (first ++ second) = (server.run first).run second :=
  List.foldl_append

/-- What is seen of an operation by somebody who does not see session `x`: nothing of what is
addressed to the session, and not what client it has. -/
def seen (x : Nat) (server : Server) : Operation → List Operation
  | .hub operation =>
    if operation.addressee? = some x then [] else [.hub (server.hub.masked x operation)]
  | operation => [operation]

/-- What is seen of a run by somebody who does not see session `x`. -/
def view (x : Nat) : Server → List Operation → List Operation
  | _, [] => []
  | server, operation :: rest => server.seen x operation ++ view x (server.step operation) rest

/-- A server before its first operation. -/
def initial (policy : StreamPolicy) (servesMetrics : Bool) : Server :=
  { Server.new policy with servesMetrics }

variable {x : Nat} {server server' : Server}

/-- Two new servers with one policy are alike. -/
theorem alike_initial (x : Nat) (policy : StreamPolicy) (servesMetrics : Bool) :
    Alike x (initial policy servesMetrics) (initial policy servesMetrics) :=
  ⟨Hub.alike_new x policy, rfl, rfl, rfl⟩

/-- Neither server comes first. -/
theorem Alike.symm (h : Alike x server server') : Alike x server' server :=
  ⟨h.hub.symm, h.counters_eq.symm, h.stopping_eq.symm, h.servesMetrics_eq.symm⟩

/-- What is not seen happens to session `x` only. -/
theorem Alike.step_unseen (h : Alike x server server') {operation : Operation}
    (hregular : operation.isRegular = true) (hseen : server.seen x operation = []) :
    Alike x (server.step operation) server' := by
  cases operation with
  | hub operation =>
    have haddressee : operation.addressee? = some x := by
      by_contra hne
      simp [seen, hne] at hseen
    exact ⟨h.hub.step_left hregular haddressee, h.counters_eq, h.stopping_eq, h.servesMetrics_eq⟩
  | _ => simp [seen] at hseen

/-- Every operation of a server leaves alike servers alike. -/
theorem Alike.step (h : Alike x server server') (operation : Operation)
    (hregular : operation.isRegular = true) :
    Alike x (server.step operation) (server'.step operation) := by
  cases operation with
  | hub operation => exact h.withHub (h.hub.step operation hregular)
  | settle => exact h.withHub h.hub.settle
  | advance millis => exact h.withHub (h.hub.advance millis)
  | stop timeout => exact h.withHub (h.hub.stop timeout)
  | cancel => exact h.cancel
  | stopGracefully tasks timeout => exact h.stopGracefully tasks timeout
  | request request circumstances =>
    exact (Http.repliesAlike_handle h request circumstances).server

/-- An operation that is seen is an operation of the hub that is seen masked, or seen as it is. -/
theorem seen_cases {operation shown : Operation} (h : server.seen x operation = [shown]) :
    (∃ inner, operation = .hub inner ∧ shown = .hub (server.hub.masked x inner)) ∨
      (∀ inner, shown ≠ .hub inner) ∧ shown = operation := by
  cases operation with
  | hub inner =>
    simp only [seen] at h
    split at h
    · cases h
    · exact Or.inl ⟨inner, rfl, (List.singleton_inj.mp h).symm⟩
  | _ =>
    obtain rfl := List.singleton_inj.mp h
    exact Or.inr ⟨fun inner => by simp, rfl⟩

/-- Operations that look the same leave alike servers alike. -/
theorem Alike.step_seen (h : Alike x server server') {operation operation' shown : Operation}
    (hregular : operation.isRegular = true) (hseen : server.seen x operation = [shown])
    (hseen' : server'.seen x operation' = [shown]) :
    Alike x (server.step operation) (server'.step operation') := by
  rcases seen_cases hseen with ⟨inner, rfl, rfl⟩ | ⟨hother, rfl⟩
  · rcases seen_cases hseen' with ⟨inner', rfl, hmasked⟩ | ⟨hother', -⟩
    · exact h.withHub (h.hub.step_masked hregular (Operation.hub.inj hmasked))
    · exact absurd rfl (hother' _)
  · rcases seen_cases hseen' with ⟨inner', -, rfl⟩ | ⟨-, rfl⟩
    · exact absurd rfl (hother _)
    · exact h.step _ hregular

/-- An operation is seen as one operation, or not at all. -/
theorem seen_eq_nil_or_singleton (x : Nat) (server : Server) (operation : Operation) :
    server.seen x operation = [] ∨ ∃ shown, server.seen x operation = [shown] := by
  cases operation with
  | hub inner =>
    simp only [seen]
    split
    · exact Or.inl rfl
    · exact Or.inr ⟨_, rfl⟩
  | _ => exact Or.inr ⟨_, rfl⟩

/-- A run of which nothing is seen happens to session `x` only. -/
theorem Alike.run_unseen (h : Alike x server server') {operations : List Operation}
    (hregular : ∀ operation ∈ operations, operation.isRegular = true)
    (hview : view x server operations = []) : Alike x (server.run operations) server' := by
  induction operations generalizing server with
  | nil => exact h
  | cons operation rest ih =>
    obtain ⟨hseen, hrest⟩ := List.append_eq_nil_iff.mp hview
    exact ih (h.step_unseen (hregular operation List.mem_cons_self) hseen)
      (fun other hother => hregular other (List.mem_cons_of_mem _ hother)) hrest

/-- A run of which something is seen is one of which nothing is seen, an operation that is seen, and
the rest. -/
theorem view_cons {operations shown : List Operation} {first : Operation}
    (h : view x server operations = first :: shown) :
    ∃ before operation after, operations = before ++ operation :: after ∧
      view x server before = [] ∧ (server.run before).seen x operation = [first] ∧
      view x ((server.run before).step operation) after = shown := by
  induction operations generalizing server with
  | nil => cases h
  | cons operation rest ih =>
    rcases seen_eq_nil_or_singleton x server operation with hseen | ⟨only, hseen⟩
    · rw [view, hseen, List.nil_append] at h
      obtain ⟨before, last, after, rfl, hbefore, hlast, hafter⟩ := ih h
      refine ⟨operation :: before, last, after, rfl, ?_, hlast, hafter⟩
      rw [view, hseen, hbefore, List.nil_append]
    · rw [view, hseen, List.singleton_append] at h
      obtain ⟨rfl, hrest⟩ := List.cons.inj h
      exact ⟨[], operation, rest, rfl, rfl, hseen, hrest⟩

/-- Runs that look the same leave alike servers alike. -/
theorem Alike.run (h : Alike x server server') {operations operations' : List Operation}
    (hregular : ∀ operation ∈ operations, operation.isRegular = true)
    (hregular' : ∀ operation ∈ operations', operation.isRegular = true)
    (hview : view x server operations = view x server' operations') :
    Alike x (server.run operations) (server'.run operations') := by
  -- The first run is taken step by step; the second is cut at the operation that is seen next.
  induction operations generalizing server server' operations' with
  | nil => exact (h.symm.run_unseen hregular' hview.symm).symm
  | cons operation rest ih =>
    have hfirst := hregular operation List.mem_cons_self
    have hrest := fun other hother => hregular other (List.mem_cons_of_mem _ hother)
    rcases seen_eq_nil_or_singleton x server operation with hseen | ⟨shown, hseen⟩
    · rw [view, hseen, List.nil_append] at hview
      exact ih (h.step_unseen hfirst hseen) hrest hregular' hview
    · rw [view, hseen, List.singleton_append] at hview
      obtain ⟨before, operation', after, rfl, hbefore, hseen', hafter⟩ := view_cons hview.symm
      have hbefore' := (h.symm.run_unseen
        (fun other hother => hregular' other (List.mem_append_left _ hother)) hbefore).symm
      have hboth := hbefore'.step_seen hfirst hseen hseen'
      rw [run_append]
      exact ih hboth hrest (fun other hother =>
        hregular' other (List.mem_append_right _ (List.mem_cons_of_mem _ hother))) hafter.symm

/-- What one client does makes no difference to the others. Take two runs of a server that look the
same to somebody who does not see session `x`, neither of which has refused a stream for want of a
slot. At the end of both, and so at every point up to which they look the same, it is the same time,
and every other session is the same: its stage, its outbox, what it has dropped and written, its
reason and its error, its tasks, and the frames that its client has accepted with their times. -/
theorem others_unaffected_by_client (x : Nat) (policy : StreamPolicy) (servesMetrics : Bool)
    {operations operations' : List Operation}
    (hregular : ∀ operation ∈ operations, operation.isRegular = true)
    (hregular' : ∀ operation ∈ operations', operation.isRegular = true)
    (hview : view x (initial policy servesMetrics) operations =
      view x (initial policy servesMetrics) operations')
    (hunrefused : ((initial policy servesMetrics).run operations).hub.Unrefused)
    (hunrefused' : ((initial policy servesMetrics).run operations').hub.Unrefused) :
    let hub := ((initial policy servesMetrics).run operations).hub
    let hub' := ((initial policy servesMetrics).run operations').hub
    hub.now = hub'.now ∧ ∀ n, n ≠ x → hub.connections[n]? = hub'.connections[n]? := by
  intro hub hub'
  have halike := (alike_initial x policy servesMetrics).run hregular hregular' hview
  exact ⟨halike.hub.now_eq, (halike.hub.others hunrefused hunrefused').elsewhere⟩

/-- In one run the client of the first session breaks down at its first frame, in the other it reads
the frame. -/
theorem others_unaffected_by_client_that_panics :
    let broken : List Operation := [
      .hub (.connect (.random 0) ⟨0⟩ (.scripted fun _ => ⟨0, .panic⟩) (some 5)),
      .hub (.connect (.random 0) ⟨1⟩ (.channel 4) none), .settle, .hub (.publish ⟨.random 0, 6⟩),
      .settle]
    let sound : List Operation := [
      .hub (.connect (.random 0) ⟨0⟩ (.channel 1) (some 5)),
      .hub (.connect (.random 0) ⟨1⟩ (.channel 4) none), .settle, .hub (.receive 0 1),
      .hub (.publish ⟨.random 0, 6⟩), .settle]
    let hub := ((initial .default false).run broken).hub
    let hub' := ((initial .default false).run sound).hub
    (hub.session? 0).map (·.stage) = some .terminated ∧
      (hub'.session? 0).map (·.stage) = some .open ∧ hub.connections[1]? = hub'.connections[1]? := by
  intro broken sound hub hub'
  have hview : view 0 (initial .default false) broken = view 0 (initial .default false) sound := by
    have hfirst (transport : Transport) : ((initial .default false).step (.hub (.connect (.random 0)
        ⟨0⟩ transport (some 5)))).hub.connections.length = 1 := by
      cases transport <;> rfl
    have hnone : (initial .default false).hub.connections = [] := rfl
    simp [broken, sound, view, seen, Hub.Operation.addressee?, Hub.masked, hnone, hfirst]
  have hsame := others_unaffected_by_client 0 .default false
    (show ∀ operation ∈ broken, operation.isRegular = true by decide)
    (show ∀ operation ∈ sound, operation.isRegular = true by decide)
    hview (show _ = 0 by decide +kernel) (show _ = 0 by decide +kernel)
  exact ⟨by decide +kernel, by decide +kernel, hsame.2 1 (by decide)⟩

end Server

end LiveCounter
