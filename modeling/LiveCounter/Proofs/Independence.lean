import LiveCounter.Proofs.Elapsing

/-!
# Hubs that differ in one session

Two hubs are alike but for one session if every other session is the same in both. What the one
session has become, when it closed and for what, is kept in records that all sessions share, but
none of this reaches the others. The one exception is the number of slots: a session that closes
makes room for another one, so hubs are only compared as long as neither has refused a stream for
want of a slot.
-/

namespace LiveCounter.Hub

/-- No stream has been refused for want of a slot. -/
def Unrefused (hub : Hub) : Prop :=
  hub.metrics.count (.sessionsRejected .capacity) = 0

/-- What had not been refused later had not been refused before. -/
theorem Unrefused.of_le {hub later : Hub} (h : later.Unrefused) (hle : hub.metrics.Le later.metrics) :
    hub.Unrefused :=
  Nat.eq_zero_of_le_zero (h ▸ hle (.sessionsRejected .capacity))

/-- Reports refuse nobody. -/
theorem Unrefused.of_reports {hub later : Hub} (h : later.Unrefused) (hreports : hub.Reports later) :
    hub.Unrefused :=
  h.of_le (frame_path hreports.path).2.2.2

/-- Both lists have the same connections, except at one place. -/
structure SameBut (x : Nat) (first second : List Connection) : Prop where
  length_eq : first.length = second.length
  elsewhere : ∀ n, n ≠ x → first[n]? = second[n]?

/-- A list has the same connections as itself. -/
theorem SameBut.refl (x : Nat) (connections : List Connection) : SameBut x connections connections :=
  ⟨rfl, fun _ _ => rfl⟩

/-- Neither list comes first. -/
theorem SameBut.symm {x : Nat} {first second : List Connection} (h : SameBut x first second) :
    SameBut x second first :=
  ⟨h.length_eq.symm, fun n hn => (h.elsewhere n hn).symm⟩

/-- Lists stay the same, except at one place, if all connections change alike. -/
theorem SameBut.map {x : Nat} {first second : List Connection} (h : SameBut x first second)
    (f : Connection → Connection) : SameBut x (first.map f) (second.map f) := by
  refine ⟨by rw [List.length_map, List.length_map, h.length_eq], fun n hn => ?_⟩
  rw [List.getElem?_map, List.getElem?_map, h.elsewhere n hn]

/-- Where one connection joins, it joins at the same place on both sides. -/
theorem SameBut.append {x : Nat} {first second : List Connection} (h : SameBut x first second)
    {connection connection' : Connection} (heq : first.length ≠ x → connection = connection') :
    SameBut x (first ++ [connection]) (second ++ [connection']) := by
  refine ⟨by simp [h.length_eq], fun n hn => ?_⟩
  rcases Nat.lt_trichotomy n first.length with hlt | rfl | hgt
  · rw [List.getElem?_append_left hlt, List.getElem?_append_left (h.length_eq ▸ hlt),
      h.elsewhere n hn]
  · rw [List.getElem?_concat_length, h.length_eq, List.getElem?_concat_length, heq hn]
  · rw [List.getElem?_eq_none (by simpa using Nat.succ_le_of_lt hgt),
      List.getElem?_eq_none (by simpa [← h.length_eq] using Nat.succ_le_of_lt hgt)]

/-- The hubs are alike but for session `x`, unless one of them has refused a stream for want of a
slot. -/
structure Alike (x : Nat) (hub hub' : Hub) : Prop where
  left : hub.Consistent
  right : hub'.Consistent
  usable : hub.policy.Usable
  policy_eq : hub.policy = hub'.policy
  now_eq : hub.now = hub'.now
  stopping_eq : hub.stopping = hub'.stopping
  others : hub.Unrefused → hub'.Unrefused → SameBut x hub.connections hub'.connections

variable {x : Nat} {hub hub' later later' : Hub}

/-- Two new hubs with one policy are alike. -/
theorem alike_new (x : Nat) (policy : StreamPolicy) : Alike x (Hub.new policy) (Hub.new policy) where
  left := consistent_new policy
  right := consistent_new policy
  usable := policy.usable_clamped
  policy_eq := rfl
  now_eq := rfl
  stopping_eq := rfl
  others _ _ := .refl x _

/-- Neither hub comes first. -/
theorem Alike.symm (h : Alike x hub hub') : Alike x hub' hub where
  left := h.right
  right := h.left
  usable := h.policy_eq ▸ h.usable
  policy_eq := h.policy_eq.symm
  now_eq := h.now_eq.symm
  stopping_eq := h.stopping_eq.symm
  others hunrefused hunrefused' := (h.others hunrefused' hunrefused).symm

/-- What alike hubs become is alike if the same happens to the other sessions. -/
theorem Alike.next (h : Alike x hub hub') (hleft : hub.Follows later) (hright : hub'.Follows later')
    (hnow : later.now = later'.now) (hstopping : later.stopping = later'.stopping)
    (hothers : later.Unrefused → later'.Unrefused → SameBut x hub.connections hub'.connections →
      SameBut x later.connections later'.connections) : Alike x later later' where
  left := hleft.consistent
  right := hright.consistent
  usable := hleft.policy_eq ▸ h.usable
  policy_eq := by rw [hleft.policy_eq, hright.policy_eq, h.policy_eq]
  now_eq := hnow
  stopping_eq := hstopping
  others hunrefused hunrefused' := hothers hunrefused hunrefused' (h.others
    (hunrefused.of_le hleft.metrics_le) (hunrefused'.of_le hright.metrics_le))

/-- Reports are changes that leave everything alone. -/
theorem Reports.follows (h : hub.Reports later) (hconsistent : hub.Consistent) :
    hub.Follows later :=
  hconsistent.follows_path h.path

/-- Reports on either side make no difference. -/
theorem Alike.reports (h : Alike x hub hub') (hleft : hub.Reports later)
    (hright : hub'.Reports later') : Alike x later later' := by
  obtain ⟨-, hnow, hstopping, -⟩ := frame_path hleft.path
  obtain ⟨-, hnow', hstopping', -⟩ := frame_path hright.path
  refine h.next (hleft.follows h.left) (hright.follows h.right) ?_ ?_ fun _ _ hsame => ?_
  · rw [hnow, hnow', h.now_eq]
  · rw [hstopping, hstopping', h.stopping_eq]
  · rwa [hleft.connections, hright.connections]

/-! ## Operations on both sides -/

/-- What a regular operation does to the clock and to a stop, it does at its outset. -/
theorem frame_step (h : hub.Consistent) {operation : Operation}
    (hregular : operation.isRegular = true) :
    (hub.step operation).now = (hub.outset operation).now ∧
      (hub.step operation).stopping = (hub.outset operation).stopping := by
  cases hpanics : hub.panics operation with
  | true =>
    rw [(step_of_panics hpanics).1, outset_of_panics hpanics]
    exact ⟨rfl, rfl⟩
  | false =>
    obtain ⟨-, hnow, hstopping, -⟩ := frame_path (h.path_step hregular hpanics)
    exact ⟨hnow, hstopping⟩

/-- Clocks and stops stay alike at the outset of an operation. -/
theorem Alike.outset (h : Alike x hub hub') (operation : Operation) :
    (hub.outset operation).now = (hub'.outset operation).now ∧
      (hub.outset operation).stopping = (hub'.outset operation).stopping := by
  cases operation with
  | pass millis => exact ⟨congrArg (· + millis) h.now_eq, h.stopping_eq⟩
  | sweep => exact ⟨h.now_eq, rfl⟩
  | _ => exact ⟨h.now_eq, h.stopping_eq⟩

/-- An operation on each side, where it is known what it does to the other sessions. -/
theorem Alike.step_of_others (h : Alike x hub hub') {operation operation' : Operation}
    (hregular : operation.isRegular = true) (hregular' : operation'.isRegular = true)
    (hnow : (hub.outset operation).now = (hub'.outset operation').now)
    (hstopping : (hub.outset operation).stopping = (hub'.outset operation').stopping)
    (hothers : (hub.step operation).Unrefused → (hub'.step operation').Unrefused →
      SameBut x hub.connections hub'.connections →
      SameBut x (hub.step operation).connections (hub'.step operation').connections) :
    Alike x (hub.step operation) (hub'.step operation') := by
  obtain ⟨hlater, hstops⟩ := frame_step h.left hregular
  obtain ⟨hlater', hstops'⟩ := frame_step h.right hregular'
  refine h.next (h.left.follows_step hregular) (h.right.follows_step hregular') ?_ ?_ hothers
  · rw [hlater, hlater', hnow]
  · rw [hstops, hstops', hstopping]

/-- Other sessions react alike to an operation that adds no session. -/
theorem Alike.step_of_moves (h : Alike x hub hub') {operation : Operation}
    (hcreates : operation.creates = false) (hsame : SameBut x hub.connections hub'.connections) :
    SameBut x (hub.step operation).connections (hub'.step operation).connections := by
  have hacts := hub.acts_step hcreates
  have hacts' := hub'.acts_step hcreates
  refine ⟨by rw [hacts.length_eq, hacts'.length_eq, hsame.length_eq], fun n hn => ?_⟩
  have hconnection := hsame.elsewhere n hn
  rw [hacts n, hacts' n]
  cases hleft : hub.connections[n]? with
  | none =>
    rw [← hconnection, hleft]
    rfl
  | some connection =>
    rw [hleft] at hconnection
    have hmoves : hub.moves n operation = hub'.moves n operation := by
      rw [h.left.moves_eq hleft, h.right.moves_eq hconnection.symm, h.policy_eq, h.now_eq]
    rw [← hconnection, Option.map_some, Option.map_some]
    exact congrArg (fun moves => some (connection.after moves)) hmoves

/-- The same session joins hubs that are alike. -/
theorem Alike.newcomer_eq (h : Alike x hub hub') (topic : Topic) (id : SessionId) :
    hub.newcomer topic id = hub'.newcomer topic id := by
  rw [newcomer, newcomer, h.policy_eq, h.now_eq]

/-- Hubs stay alike when both are asked to join. -/
theorem Alike.join (h : Alike x hub hub') (topic : Topic) (id : SessionId) :
    Alike x (hub.join topic id).2 (hub'.join topic id).2 := by
  show Alike x (hub.step (.join topic id)) (hub'.step (.join topic id))
  refine h.step_of_others rfl rfl h.now_eq h.stopping_eq fun hunrefused hunrefused' hsame => ?_
  have hstopping := h.stopping_eq
  have hpolicy := h.policy_eq
  cases hub.joinCase topic id with
  | full _ _ _ _ hcount => exact absurd hunrefused hcount
  | stopping hstops _ hhub =>
    cases hub'.joinCase topic id with
    | full _ _ _ _ hcount => exact absurd hunrefused' hcount
    | stopping _ _ hhub' => simpa only [step, hhub.connections, hhub'.connections] using hsame
    | panicked hgoes | admitted hgoes => simp [hstops, hgoes] at hstopping
  | panicked hgoes _ _ hhub hlarge =>
    cases hub'.joinCase topic id with
    | full _ _ _ _ hcount => exact absurd hunrefused' hcount
    | stopping hstops => simp [hstops, hgoes] at hstopping
    | panicked _ _ _ hhub' => simpa only [step, hhub, hhub', forfeited] using hsame
    | admitted _ _ _ _ hfits => exact absurd (hpolicy ▸ hfits) (Nat.not_le_of_lt hlarge)
  | admitted hgoes _ _ hhub hfits =>
    cases hub'.joinCase topic id with
    | full _ _ _ _ hcount => exact absurd hunrefused' hcount
    | stopping hstops => simp [hstops, hgoes] at hstopping
    | panicked _ _ _ _ hlarge => exact absurd (hpolicy ▸ hfits) (Nat.not_le_of_lt hlarge)
    | admitted _ _ _ hhub' =>
      simp only [step, hhub.connections, hhub'.connections, entered]
      exact hsame.append fun _ => h.newcomer_eq topic id

/-- Where no stream is refused for want of a slot, both sides answer alike when a stream opens, and
what they accept differs only if it is the stream of session `x`. -/
theorem Alike.accept (h : Alike x hub hub') (topic : Topic) (id : SessionId)
    (transport transport' : Transport) (initial : Option Int64)
    (htransport : hub.connections.length = hub'.connections.length →
      hub.connections.length ≠ x → transport = transport')
    (hunrefused : (hub.connect topic id transport.client initial).2.Unrefused)
    (hunrefused' : (hub'.connect topic id transport'.client initial).2.Unrefused)
    (hsame : SameBut x hub.connections hub'.connections) :
    SameBut x (hub.connect topic id transport.client initial).2.connections
        (hub'.connect topic id transport'.client initial).2.connections ∧
      (hub.connect topic id transport.client initial).1 =
        (hub'.connect topic id transport'.client initial).1 := by
  have hstopping := h.stopping_eq
  have hpolicy := h.policy_eq
  cases hub.connectCase topic id transport.client initial with
  | full _ _ _ hcount => exact absurd hunrefused hcount
  | stopping hstops hanswer hconnections =>
    cases hub'.connectCase topic id transport'.client initial with
    | full _ _ _ hcount => exact absurd hunrefused' hcount
    | stopping _ hanswer' hconnections' =>
      rw [hanswer, hanswer', hconnections, hconnections']
      exact ⟨hsame, rfl⟩
    | panicked hgoes | admitted hgoes => simp [hstops, hgoes] at hstopping
  | panicked hgoes hanswer hconnections hlarge =>
    cases hub'.connectCase topic id transport'.client initial with
    | full _ _ _ hcount => exact absurd hunrefused' hcount
    | stopping hstops => simp [hstops, hgoes] at hstopping
    | panicked _ hanswer' hconnections' =>
      rw [hanswer, hanswer', hconnections, hconnections']
      exact ⟨hsame, rfl⟩
    | admitted _ _ _ hfits => exact absurd (hpolicy ▸ hfits) (Nat.not_le_of_lt hlarge)
  | admitted hgoes hanswer hconnections hfits =>
    cases hub'.connectCase topic id transport'.client initial with
    | full _ _ _ hcount => exact absurd hunrefused' hcount
    | stopping hstops => simp [hstops, hgoes] at hstopping
    | panicked _ _ _ hlarge => exact absurd (hpolicy ▸ hfits) (Nat.not_le_of_lt hlarge)
    | admitted _ hanswer' hconnections' =>
      rw [hanswer, hanswer', hconnections, hconnections', hsame.length_eq]
      refine ⟨hsame.append fun hne => ?_, rfl⟩
      rw [welcomed, welcomed, h.newcomer_eq, htransport hsame.length_eq hne]

/-- The answer to the opening of a stream is the same on both sides, and the clients may differ if
it is the stream of session `x` that opens. -/
theorem Alike.connect (h : Alike x hub hub') (topic : Topic) (id : SessionId)
    (transport transport' : Transport) (initial : Option Int64)
    (htransport : hub.connections.length = hub'.connections.length →
      hub.connections.length ≠ x → transport = transport') :
    Alike x (hub.connect topic id transport.client initial).2
        (hub'.connect topic id transport'.client initial).2 ∧
      ((hub.connect topic id transport.client initial).2.Unrefused →
        (hub'.connect topic id transport'.client initial).2.Unrefused →
        (hub.connect topic id transport.client initial).1 =
          (hub'.connect topic id transport'.client initial).1) := by
  have hregular (transport : Transport) :
      (Operation.connect topic id transport initial).isRegular = true := rfl
  have hfollows := h.left.follows_step (hregular transport)
  have hfollows' := h.right.follows_step (hregular transport')
  have haccept := h.accept topic id transport transport' initial htransport
  constructor
  · apply h.step_of_others (hregular transport) (hregular transport') h.now_eq h.stopping_eq
    intro hunrefused hunrefused' hsame
    exact (haccept hunrefused hunrefused' hsame).1
  · intro hunrefused hunrefused'
    exact (haccept hunrefused hunrefused' (h.others (hunrefused.of_le hfollows.metrics_le)
      (hunrefused'.of_le hfollows'.metrics_le))).2

/-- An operation that goes through the hub reaches the other sessions on both sides alike. -/
theorem Alike.step (h : Alike x hub hub') (operation : Operation)
    (hregular : operation.isRegular = true) :
    Alike x (hub.step operation) (hub'.step operation) := by
  cases hcreates : operation.creates with
  | false =>
    obtain ⟨hnow, hstopping⟩ := h.outset operation
    exact h.step_of_others hregular hregular hnow hstopping
      fun _ _ hsame => h.step_of_moves hcreates hsame
  | true =>
    cases operation with
    | join topic id => exact h.join topic id
    | connect topic id transport initial =>
      exact (h.connect topic id transport transport initial fun _ _ => rfl).1
    | create => simp [Operation.isRegular] at hregular
    | _ => simp [Operation.creates] at hcreates

/-! ## Operations on one side -/

/-- The session to which an operation is addressed, and to no other. -/
def Operation.addressee? : Operation → Option Nat
  | .offer n _ | .take n | .close n _ | .closeFor n _ | .closeLive n _ | .refresh n | .noteWrite n
  | .receive n _ | .loseClient n | .letGo n | .pollWatch n | .pollWriter n | .claim n _
  | .release n | .subscribe n _ | .unsubscribe n _ => some n
  | .join .. | .connect .. | .publish _ | .clearTopic _ | .sweep | .pass _ | .report .. | .countHit
  | .create .. => none

/-- An operation reaches its addressee only. -/
theorem moves_of_addressee (hub : Hub) {operation : Operation} {n : Nat}
    (h : operation.addressee? = some x) (hn : n ≠ x) : hub.moves n operation = [] := by
  cases operation with
  | join | connect | publish | clearTopic | sweep | pass | report | countHit | create =>
    simp [Operation.addressee?] at h
  | subscribe | unsubscribe => rfl
  | _ =>
    obtain rfl := Option.some.inj h
    simp [moves, only, hn]

/-- An operation that is addressed to one session leaves the clock alone and creates nothing. -/
theorem outset_of_addressee (hub : Hub) {operation : Operation}
    (h : operation.addressee? = some x) : hub.outset operation = hub ∧ operation.creates = false := by
  cases operation with
  | join | connect | publish | clearTopic | sweep | pass | report | countHit | create =>
    simp [Operation.addressee?] at h
  | _ => exact ⟨rfl, rfl⟩

/-- What happens to session `x` on one side does not reach the others. -/
theorem Alike.step_left (h : Alike x hub hub') {operation : Operation}
    (hregular : operation.isRegular = true) (haddressee : operation.addressee? = some x) :
    Alike x (hub.step operation) hub' := by
  obtain ⟨houtset, hcreates⟩ := hub.outset_of_addressee haddressee
  obtain ⟨hnow, hstopping⟩ := frame_step h.left hregular
  rw [houtset] at hnow hstopping
  refine h.next (h.left.follows_step hregular) h.right.follows (hnow.trans h.now_eq)
    (hstopping.trans h.stopping_eq) fun _ _ hsame => ?_
  have hacts := hub.acts_step hcreates
  refine ⟨hacts.length_eq.trans hsame.length_eq, fun n hn => ?_⟩
  rw [hacts n]
  simp [hub.moves_of_addressee haddressee hn, hsame.elsewhere n hn]

/-- A client is lost on both sides, if it is known to be the same one unless a stream has been
refused. -/
theorem Alike.loseClients (h : Alike x hub hub') {n n' : Option Nat}
    (heq : hub.Unrefused → hub'.Unrefused → n = n') :
    Alike x (n.elim hub hub.loseClient) (n'.elim hub' hub'.loseClient) := by
  have hlose {hub : Hub} (hconsistent : hub.Consistent) (n : Option Nat) :
      hub.Follows (n.elim hub hub.loseClient) := by
    cases n with
    | none => exact hconsistent.follows
    | some n =>
      exact hconsistent.follows_step (show (Operation.loseClient n).isRegular = true from rfl)
  refine h.next (hlose h.left n) (hlose h.right n') ?_ ?_ fun hunrefused hunrefused' hsame => ?_
  · cases n <;> cases n' <;> exact h.now_eq
  · cases n <;> cases n' <;> exact h.stopping_eq
  · obtain rfl := heq (hunrefused.of_le (hlose h.left n).metrics_le)
      (hunrefused'.of_le (hlose h.right n').metrics_le)
    cases n with
    | none => exact hsame
    | some n =>
      have hcreates : (Operation.loseClient n).creates = false := rfl
      exact h.step_of_moves hcreates hsame

/-! ## Settling, time and stopping -/

/-- Hubs stay alike when their tasks settle. -/
theorem Alike.settle (h : Alike x hub hub') : Alike x hub.settle hub'.settle := by
  obtain ⟨-, hnow, hstopping, -⟩ := frame_path (path_settle hub)
  obtain ⟨-, hnow', hstopping', -⟩ := frame_path (path_settle hub')
  refine h.next (h.left.follows_path hub.path_settle) (h.right.follows_path hub'.path_settle)
    (by rw [hnow, hnow', h.now_eq]) (by rw [hstopping, hstopping', h.stopping_eq])
    fun _ _ hsame => ?_
  rw [connections_settle, connections_settle, h.policy_eq, h.now_eq]
  exact hsame.map _

/-- Time passes for the other sessions on both sides alike, though the clock may stop at other
instants. -/
theorem Alike.advance (h : Alike x hub hub') (millis : Nat) :
    Alike x (hub.advance millis) (hub'.advance millis) := by
  obtain ⟨hconnections, hnow⟩ := connections_advance h.usable millis
  obtain ⟨hconnections', hnow'⟩ := connections_advance h.symm.usable millis
  obtain ⟨hfollows, hstopping⟩ := h.left.follows_advance millis
  obtain ⟨hfollows', hstopping'⟩ := h.right.follows_advance millis
  refine h.next hfollows hfollows' (by rw [hnow, hnow', h.now_eq])
    (by rw [hstopping, hstopping', h.stopping_eq]) fun _ _ hsame => ?_
  rw [hconnections, hconnections', h.policy_eq, h.now_eq]
  exact hsame.map _

/-- Hubs stay alike when both are stopped. -/
theorem Alike.stop (h : Alike x hub hub') (timeout : Duration) :
    Alike x (hub.stop timeout).2 (hub'.stop timeout).2 := by
  obtain ⟨hfollows, hnow, hstopping⟩ := h.left.follows_stop h.usable timeout
  obtain ⟨hfollows', hnow', hstopping'⟩ := h.right.follows_stop h.symm.usable timeout
  refine h.next hfollows hfollows' (by rw [hnow, hnow', h.now_eq])
    (by rw [hstopping, hstopping']) fun _ _ hsame => ?_
  rw [connections_stop h.left h.usable, connections_stop h.right h.symm.usable, h.policy_eq,
    h.now_eq]
  exact hsame.map _

end LiveCounter.Hub
