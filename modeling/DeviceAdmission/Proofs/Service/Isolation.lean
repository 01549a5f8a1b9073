import DeviceAdmission.Proofs.Service.Run
import DeviceAdmission.Proofs.Store.Parts

/-!
# Tenants do not see each other

A session is a run in which no call fails and nobody interferes. Leaving out whatever was asked for
other tenants changes nothing for a tenant: what is asked of the service for this tenant gets the
same answers, and its records are the same in the end. Every call of an operation is about the
tenant of the operation, is answered out of the part of the store that belongs to this tenant, and
leaves all other parts. What other tenants could take away are ids, so ids for new records must be
fresh.
-/

namespace DeviceAdmission

open TokenEntry

/-- What may be asked of the service and of its authority. -/
inductive Demand where
  | operation (o : Operation)
  /-- Have the authority verify a raw token just as it is given. -/
  | verifyAsGiven (raw : String)
  /-- Tell the authority the new status of a device. -/
  | statusChanged (tenant : Tenant) (deviceId : String) (status : DeviceStatus)
  deriving DecidableEq

/-- What a demand is answered with. -/
inductive Answer where
  | reply (r : Reply)
  | revoked (count : Nat)
  deriving DecidableEq

namespace Demand

/-- The id that a token gets if the demand makes one. -/
def tokenId? : Demand → Option String
  | operation o => o.tokenId?
  | _ => none

/-- The id that a device gets if the demand registers one. -/
def deviceId? : Demand → Option String
  | operation o => o.deviceId?
  | _ => none

/-- What a demand is about at a time, unless it ends before it calls the store. -/
def scope? (s : Admission) (wall : Int) : Demand → Option Scope
  | operation o => o.scope? s wall
  | verifyAsGiven raw => s.authority.scope? raw
  | statusChanged tenant _ _ => some (.reading tenant)

end Demand

/-- Meet a demand. -/
def Admission.meet (s : Admission) : Demand → Action Answer
  | .operation o => do
    let reply ← s.perform o
    pure (.reply reply)
  | .verifyAsGiven raw => do
    let verified ← s.authority.verify raw
    pure (.reply (.verified verified))
  | .statusChanged tenant deviceId status => do
    let count ← s.authority.onStatusChanged tenant deviceId status
    pure (.revoked count)

/-- A demand at a time. -/
structure Turn where
  demand : Demand
  now : Instant
  wallSeconds : Int
  deriving DecidableEq

namespace Turn

def tokenId? (u : Turn) : Option String :=
  u.demand.tokenId?

def deviceId? (u : Turn) : Option String :=
  u.demand.deviceId?

def scope? (s : Admission) (u : Turn) : Option Scope :=
  u.demand.scope? s u.wallSeconds

/-- Whether a turn is about another tenant. -/
def isElsewhere (s : Admission) (t : Tenant) (u : Turn) : Bool :=
  match u.scope? s with
  | some scope => scope.tenant ≠ t
  | none => false

/-- Take a turn where no call fails and nobody interferes: the answer and the store that is left. -/
def serve (s : Admission) (u : Turn) (store : Store) : Except Failure Answer × Store :=
  let result := (s.meet u.demand).run (World.quiet store u.now u.wallSeconds)
  (result.1, result.2.store)

end Turn

/-- Whether no id for a new record was given to two turns. -/
structure GivenOnce (turns : List Turn) : Prop where
  deviceIds : (turns.filterMap Turn.deviceId?).Nodup
  tokenIds : (turns.filterMap Turn.tokenId?).Nodup

/-- A turn with its answer. -/
structure Served where
  turn : Turn
  answer : Except Failure Answer

/-- The sessions of a service over a store that was empty first, the latest turn first. The order of
tokens in memory may change between turns. -/
inductive Session (s : Admission) (kind : StoreKind) : List Served → Store → Prop where
  | start : Session s kind [] (.empty kind)
  | turn {past : List Served} {store : Store} (before : Session s kind past store) (u : Turn) :
      Session s kind (⟨u, (u.serve s store).1⟩ :: past) (u.serve s store).2
  | rearranged {past : List Served} {store store' : Store} (before : Session s kind past store)
      (order : store.Rearranged store') : Session s kind past store'

/-- The session of given turns, the latest first, in which the order of tokens stays. -/
def Admission.session (s : Admission) (kind : StoreKind) : List Turn → List Served × Store
  | [] => ([], .empty kind)
  | u :: earlier =>
    let before := s.session kind earlier
    let served := u.serve s before.2
    (⟨u, served.1⟩ :: before.1, served.2)

/-- Any turns may be taken. -/
theorem Session.of_turns (s : Admission) (kind : StoreKind) (turns : List Turn) :
    Session s kind (s.session kind turns).1 (s.session kind turns).2 := by
  induction turns with
  | nil => exact .start
  | cons u earlier ih => exact ih.turn u

@[simp]
theorem Admission.turns_session (s : Admission) (kind : StoreKind) (turns : List Turn) :
    (s.session kind turns).1.map Served.turn = turns := by
  induction turns with
  | nil => rfl
  | cons u earlier ih => rw [session, List.map_cons, ih]

/-! ## What a demand does -/

/-- The ids in the scope of a demand are those that it was given. -/
theorem Demand.given_of_scope {s : Admission} {wall : Int} {d : Demand} {scope : Scope}
    (known : d.scope? s wall = some scope) :
    (∀ id, scope.newDevice? = some id → d.deviceId? = some id) ∧
      ∀ id, scope.newToken? = some id → d.tokenId? = some id := by
  cases d with
  | operation o => exact Operation.given_of_scope known
  | verifyAsGiven raw =>
      have known : s.authority.scope? raw = some scope := known
      rcases Authority.exists_reading_of_scope? known with ⟨tenant, rfl⟩
      exact ⟨nofun, nofun⟩
  | statusChanged tenant deviceId status =>
      rw [← Option.some.inj known]
      exact ⟨nofun, nofun⟩

/-- Every call of a demand keeps to what the demand is about. -/
theorem Admission.makes_meet (s : Admission) (d : Demand) (now : Instant) (wall : Int) :
    (s.meet d).Makes (fun _ c => ∃ scope, d.scope? s wall = some scope ∧
      scope.Covers s.authority now c) now wall := by
  cases d with
  | operation o => exact .bind (s.makes_perform o now wall) fun _ _ => .pure _
  | verifyAsGiven raw =>
      exact .bind (s.authority.makes_verify raw now wall) fun _ _ => .pure _
  | statusChanged tenant deviceId status =>
      have told : (s.authority.onStatusChanged tenant deviceId status).Makes
          ((Scope.reading tenant).Covers s.authority now) now wall :=
        Authority.makes_onStatusChanged rfl
      exact .bind (told.mono fun _ _ covered => ⟨_, rfl, covered⟩) fun _ _ => .pure _

/-! ## Ids that were given once -/

theorem eq_of_nodup_filterMap {β γ : Type} {f : β → Option γ} {l : List β} {a b : β} {i : γ}
    (nodup : (l.filterMap f).Nodup) (aMem : a ∈ l) (bMem : b ∈ l) (aEq : f a = some i)
    (bEq : f b = some i) : a = b := by
  induction l with
  | nil => cases aMem
  | cons head rest ih =>
      have absent : ∀ x ∈ rest, f head = some i → f x ≠ some i := by
        intro x member headEq same
        rw [List.filterMap_cons_some headEq, List.nodup_cons] at nodup
        exact nodup.1 (List.mem_filterMap.mpr ⟨x, member, same⟩)
      rcases List.mem_cons.mp aMem with rfl | aLater
      · rcases List.mem_cons.mp bMem with rfl | bLater
        · rfl
        · exact absurd bEq (absent b bLater aEq)
      · rcases List.mem_cons.mp bMem with rfl | bLater
        · exact absurd aEq (absent a aLater bEq)
        · refine ih (List.Nodup.sublist ?_ nodup) aLater bLater
          exact (List.sublist_cons_self head rest).filterMap f

theorem GivenOnce.sublist {turns fewer : List Turn} (once : GivenOnce turns)
    (sublist : fewer.Sublist turns) : GivenOnce fewer :=
  ⟨once.deviceIds.sublist (sublist.filterMap _), once.tokenIds.sublist (sublist.filterMap _)⟩

/-! ## Where records come from -/

/-- What holds of the store after some turns: every record has the tenant of a turn and the id that
the turn was given for it. -/
structure Store.StemsFrom (store : Store) (s : Admission) (turns : List Turn) : Prop where
  sound : store.Sound
  keyed : Keyed store.tokens
  ordered : store.Ordered
  device : ∀ e ∈ store.devices, ∃ u ∈ turns, u.deviceId? = some e.id ∧
    ∃ scope, u.scope? s = some scope ∧ scope.tenant = e.tenant
  token : ∀ e ∈ store.tokens, ∃ u ∈ turns, u.tokenId? = some e.id ∧
    ∃ scope, u.scope? s = some scope ∧ scope.tenant = e.tenant

namespace Store

variable {s : Admission} {store store' : Store} {turns more : List Turn} {u : Turn} {scope : Scope}
variable {α : Type} {c : StoreCall α}

theorem stemsFrom_empty (s : Admission) (kind : StoreKind) : (Store.empty kind).StemsFrom s [] := by
  constructor
  · exact sound_empty kind
  · rw [tokens_empty]
    exact List.nodup_nil
  · exact ordered_empty kind
  · rw [devices_empty]
    rintro e ⟨⟩
  · rw [tokens_empty]
    rintro e ⟨⟩

theorem StemsFrom.mono (stems : store.StemsFrom s turns) (included : ∀ u ∈ turns, u ∈ more) :
    store.StemsFrom s more := by
  refine { stems with device := fun e member => ?_, token := fun e member => ?_ }
  · rcases stems.device e member with ⟨u, uMem, rest⟩
    exact ⟨u, included u uMem, rest⟩
  · rcases stems.token e member with ⟨u, uMem, rest⟩
    exact ⟨u, included u uMem, rest⟩

theorem StemsFrom.rearranged (stems : store.StemsFrom s turns) (order : store.Rearranged store') :
    store'.StemsFrom s turns := by
  constructor
  · exact stems.sound.rearranged order
  · exact stems.keyed.perm order.perm
  · cases order with
    | memory perm => exact stems.ordered
  · rw [order.sameDevices.devices]
    exact stems.device
  · intro e member
    exact stems.token e (order.perm.mem_iff.mpr member)

/-- A call within the scope of a turn leaves records that stem from turns. -/
theorem StemsFrom.run (stems : store.StemsFrom s turns) (taken : u ∈ turns)
    (known : u.scope? s = some scope) (covered : scope.Covers s.authority u.now c) :
    (store.run c).2.StemsFrom s turns := by
  have moved := move_run stems.sound c
  rcases Demand.given_of_scope known with ⟨deviceGiven, tokenGiven⟩
  constructor
  · exact stems.sound.run c
  · exact moved.keyed stems.keyed
  · exact stems.ordered.run c
  · intro f member
    rcases exists_device_origin member with ⟨e, old, tenantEq, idEq⟩ | ⟨d, new, tenantEq, idEq⟩
    · rw [tenantEq, idEq]
      exact stems.device e old
    · rcases covered.device d new with ⟨idGiven, -⟩
      rw [tenantEq, idEq, StoreCall.tenant_of_newDevice? new, covered.tenant]
      exact ⟨u, taken, deviceGiven _ idGiven, scope, known, rfl⟩
  · intro f member
    rcases moved.exists_origin member with ⟨_, ⟨t, new, rfl⟩, becomes⟩ | ⟨e, old, becomes⟩
    · rcases covered.token t new with ⟨id, deviceId, idGiven, minted⟩
      have made := Authority.minting minted
      rw [becomes.id, becomes.tenant, StoreKind.id_tokenEntry, StoreKind.tenant_tokenEntry,
        made.idEq, made.tenantEq]
      exact ⟨u, taken, tokenGiven _ idGiven, scope, known, rfl⟩
    · rw [becomes.id, becomes.tenant]
      exact stems.token e old

/-- Where ids are given once, a turn brings ids that no other tenant has. -/
theorem StemsFrom.allots (stems : store.StemsFrom s turns) (once : GivenOnce turns)
    (taken : u ∈ turns) (known : u.scope? s = some scope)
    (covered : scope.Covers s.authority u.now c) : store.Allots c := by
  rcases Demand.given_of_scope known with ⟨deviceGiven, tokenGiven⟩
  constructor
  · intro d new e member idEq
    rcases stems.device e member with ⟨v, vTaken, vGiven, vScope, vKnown, tenantEq⟩
    rw [idEq] at vGiven
    have same := eq_of_nodup_filterMap once.deviceIds vTaken taken vGiven
      (deviceGiven _ (covered.device d new).1)
    rw [same, known] at vKnown
    rw [covered.tenant, ← tenantEq, Option.some.inj vKnown]
  · intro t new e member idEq
    rcases covered.token t new with ⟨id, deviceId, idGiven, minted⟩
    rcases stems.token e member with ⟨v, vTaken, vGiven, vScope, vKnown, tenantEq⟩
    rw [idEq, (Authority.minting minted).idEq] at vGiven
    have same := eq_of_nodup_filterMap once.tokenIds vTaken taken vGiven (tokenGiven _ idGiven)
    rw [same, known] at vKnown
    rw [covered.tenant, ← tenantEq, Option.some.inj vKnown]

end Store

/-! ## Turns -/

/-- What holds of the world in the course of a turn. -/
structure World.Hosts (w : World) (s : Admission) (turns : List Turn) (u : Turn) : Prop where
  quiet : w.interference = fun _ _ => .none
  now : w.now = u.now
  wallSeconds : w.wallSeconds = u.wallSeconds
  stems : w.store.StemsFrom s turns

namespace Turn

variable {s : Admission} {store store' : Store} {turns turns' : List Turn} {u : Turn}
variable {t : Tenant} {w w' : World} {limit : Nat} {α : Type} {c : StoreCall α} {scope : Scope}

/-- Where nobody interferes, a call gets the answer of the store. -/
theorem run_call_of_quiet (quiet : w.interference = fun _ _ => .none) :
    (Action.call limit c).run w =
      ((w.store.run c).1.mapError fun fault => .internal (.storeFailed c.method.name fault),
        { w with store := (w.store.run c).2, calls := c.site :: w.calls }) := by
  simp only [Action.run, Action.call, quiet, Interference.none, List.foldl_nil, Action.outcome]
  cases w.store.run c with
  | mk result left =>
      cases result with
      | ok a => rfl
      | error fault => rfl

theorem isElsewhere_eq (known : u.scope? s = some scope) (t : Tenant) :
    u.isElsewhere s t = decide (scope.tenant ≠ t) := by
  rw [isElsewhere, known]

theorem hosts_quiet (stems : store.StemsFrom s turns) :
    (World.quiet store u.now u.wallSeconds).Hosts s turns u :=
  ⟨rfl, rfl, rfl, stems⟩

theorem hosts_call (hosts : w.Hosts s turns u) (taken : u ∈ turns)
    (known : u.scope? s = some scope) (covered : scope.Covers s.authority u.now c) :
    ((Action.call limit c).run w).2.Hosts s turns u := by
  rw [run_call_of_quiet hosts.quiet]
  exact ⟨hosts.quiet, hosts.now, hosts.wallSeconds, hosts.stems.run taken known covered⟩

/-- A turn leaves records that stem from turns. -/
theorem stems_serve (stems : store.StemsFrom s turns) (taken : u ∈ turns) :
    (u.serve s store).2.StemsFrom s turns := by
  have makes := s.makes_meet u.demand u.now u.wallSeconds
  refine World.Hosts.stems (u := u)
    (makes.invariant (I := fun w => w.Hosts s turns u) ?_ ?_ (hosts_quiet stems))
  · exact fun w hosts => ⟨hosts.now, hosts.wallSeconds⟩
  · rintro limit γ c ⟨scope, known, covered⟩ w hosts
    exact hosts_call hosts taken known covered

/-- A turn leaves the parts of other tenants. -/
theorem part_serve_of_isElsewhere (stems : store.StemsFrom s turns) (taken : u ∈ turns)
    (elsewhere : u.isElsewhere s t = true) : (u.serve s store).2.part t = store.part t := by
  have makes := s.makes_meet u.demand u.now u.wallSeconds
  have both : ((s.meet u.demand).run (World.quiet store u.now u.wallSeconds)).2.Hosts s turns u ∧
      ((s.meet u.demand).run (World.quiet store u.now u.wallSeconds)).2.store.part t =
        store.part t := by
    refine makes.invariant (I := fun w => w.Hosts s turns u ∧ w.store.part t = store.part t) ?_ ?_
      ⟨hosts_quiet stems, rfl⟩
    · exact fun w holds => ⟨holds.1.now, holds.1.wallSeconds⟩
    · rintro limit γ c ⟨scope, known, covered⟩ w ⟨hosts, partEq⟩
      refine ⟨hosts_call hosts taken known covered, ?_⟩
      have other : c.tenant ≠ t := by
        rw [isElsewhere_eq known] at elsewhere
        rw [covered.tenant]
        exact of_decide_eq_true elsewhere
      rw [run_call_of_quiet hosts.quiet, ← partEq]
      exact Store.part_run_of_ne hosts.stems.sound other
  exact both.2

/-- What two stores must have in common to look alike for a tenant. -/
def Agree (s : Admission) (t : Tenant) (turns turns' : List Turn) (u : Turn) (w w' : World) :
    Prop :=
  w.Hosts s turns u ∧ w'.Hosts s turns' u ∧ (w.store.part t).Shuffled (w'.store.part t)

/-- A turn for a tenant is answered out of the part of the tenant. -/
theorem serve_alike (stems : store.StemsFrom s turns) (stems' : store'.StemsFrom s turns')
    (taken : u ∈ turns) (taken' : u ∈ turns') (once : GivenOnce turns) (once' : GivenOnce turns')
    (here : u.isElsewhere s t = false) (alike : (store.part t).Shuffled (store'.part t)) :
    (u.serve s store).1 = (u.serve s store').1 ∧
      ((u.serve s store).2.part t).Shuffled ((u.serve s store').2.part t) := by
  have makes := s.makes_meet u.demand u.now u.wallSeconds
  have related := makes.related (R := Agree s t turns turns' u)
    (fun w w' agree => ⟨⟨agree.1.now, agree.1.wallSeconds⟩, agree.2.1.now, agree.2.1.wallSeconds⟩)
    ?_ _ _ ⟨hosts_quiet stems, hosts_quiet stems', alike⟩
  · exact ⟨related.1, related.2.2.2⟩
  · rintro limit γ c ⟨scope, known, covered⟩ w w' ⟨hosts, hosts', alike⟩
    have own : c.tenant = t := by
      rw [isElsewhere_eq known] at here
      rw [covered.tenant]
      exact Decidable.not_not.mp (of_decide_eq_false here)
    have allots := hosts.stems.allots once taken known covered
    have allots' := hosts'.stems.allots once' taken' known covered
    have ran := Store.run_part hosts.stems.ordered allots own
    have ran' := Store.run_part hosts'.stems.ordered allots' own
    obtain ⟨answer, left⟩ :=
      alike.run (hosts.stems.sound.part t) (Store.keyed_part hosts.stems.keyed t) c
    rw [ran, ran'] at answer left
    refine ⟨?_, hosts_call hosts taken known covered, hosts_call hosts' taken' known covered, ?_⟩
    · rw [run_call_of_quiet hosts.quiet, run_call_of_quiet hosts'.quiet]
      exact congrArg (Except.mapError _) answer
    · rw [run_call_of_quiet hosts.quiet, run_call_of_quiet hosts'.quiet]
      exact left

end Turn

/-! ## Sessions -/

namespace Session

variable {s : Admission} {kind : StoreKind} {past past' : List Served} {store store' : Store}
variable {t : Tenant}

/-- Records stem from the turns of the session. -/
theorem stemsFrom (session : Session s kind past store) :
    store.StemsFrom s (past.map Served.turn) := by
  induction session with
  | start => exact Store.stemsFrom_empty s kind
  | turn before u ih =>
      exact Turn.stems_serve (ih.mono fun _ => List.mem_cons_of_mem u) List.mem_cons_self
  | rearranged before order ih => exact ih.rearranged order

/-- A session without turns leaves the store empty. -/
theorem shuffled_of_nil (session : Session s kind [] store) :
    (Store.empty kind).Shuffled store := by
  generalize none : ([] : List Served) = past at session
  induction session with
  | start => exact .refl _
  | turn before u ih => cases none
  | rearranged before order ih => exact (ih none).trans (.inr order)

/-- The last turn of a session was taken after a session of the others. -/
theorem exists_last {u : Turn} {turns : List Turn} (session : Session s kind past store)
    (taken : past.map Served.turn = u :: turns) :
    ∃ earlier before answer, past = ⟨u, answer⟩ :: earlier ∧ Session s kind earlier before ∧
      earlier.map Served.turn = turns ∧ answer = (u.serve s before).1 ∧
        (u.serve s before).2.Shuffled store := by
  induction session with
  | start => cases taken
  | @turn past before session v ih =>
      rw [List.map_cons] at taken
      rcases List.cons.inj taken with ⟨rfl, rest⟩
      exact ⟨past, before, _, rfl, session, rest, rfl, .refl _⟩
  | rearranged session order ih =>
      rcases ih taken with ⟨earlier, before, answer, pastEq, session, rest, answered, left⟩
      exact ⟨earlier, before, answer, pastEq, session, rest, answered, left.trans (.inr order)⟩

/-! ## Main statement -/

/-- A session looks to a tenant as if nothing had been asked for other tenants: leaving out all
turns that are about another tenant changes neither the answer of any other turn nor the records of
the tenant. -/
theorem answers_of_tenant (full : Session s kind past store) (rest : Session s kind past' store')
    (left : past'.map Served.turn = (past.map Served.turn).filter fun u => !u.isElsewhere s t)
    (once : GivenOnce (past.map Served.turn)) :
    past' = past.filter (fun e => !e.turn.isElsewhere s t) ∧
      (store.part t).Shuffled (store'.part t) := by
  induction full generalizing past' store' with
  | start =>
      rw [List.map_nil, List.filter_nil, List.map_eq_nil_iff] at left
      subst left
      exact ⟨rfl, rest.shuffled_of_nil.part t⟩
  | rearranged before order ih =>
      rcases ih rest left once with ⟨same, alike⟩
      have reordered : Store.Shuffled _ _ := .inr order
      exact ⟨same, (reordered.part t).symm.trans alike⟩
  | @turn past store before u ih =>
      have earlierOnce := once.sublist (List.sublist_cons_self u _)
      have stems : store.StemsFrom s (u :: past.map Served.turn) :=
        before.stemsFrom.mono fun _ => List.mem_cons_of_mem u
      rw [List.map_cons] at left
      cases elsewhere : u.isElsewhere s t with
      | true =>
          rw [List.filter_cons_of_neg (by simp [elsewhere])] at left ⊢
          rcases ih rest left earlierOnce with ⟨same, alike⟩
          rw [Turn.part_serve_of_isElsewhere stems List.mem_cons_self elsewhere]
          exact ⟨same, alike⟩
      | false =>
          rw [List.filter_cons_of_pos (by simp [elsewhere])] at left ⊢
          rcases rest.exists_last left with
            ⟨earlier, store₀, answer, rfl, session, earlierEq, answered, shuffled⟩
          rcases ih session earlierEq earlierOnce with ⟨same, alike⟩
          have fewer : (u :: earlier.map Served.turn).Sublist (u :: past.map Served.turn) := by
            rw [earlierEq]
            exact List.filter_sublist.cons_cons u
          have stems₀ : store₀.StemsFrom s (u :: earlier.map Served.turn) :=
            session.stemsFrom.mono fun _ => List.mem_cons_of_mem _
          obtain ⟨sameAnswer, alikeAfter⟩ := Turn.serve_alike stems stems₀ List.mem_cons_self
            List.mem_cons_self once (once.sublist fewer) elsewhere alike
          rw [answered, sameAnswer, same]
          exact ⟨rfl, alikeAfter.trans (shuffled.part t)⟩

end Session

namespace Sample

/-- A service for several tenants, whose names are their tenant tokens. -/
def shared : Admission :=
  { admission with tenants := .passthrough }

def turn (demand : Demand) (second : Int) : Turn :=
  ⟨demand, .ofSeconds second, second⟩

/-- A request of a device of another tenant, with the same identity data. -/
def acmeBody : Bytes :=
  Utf8.encode "\x7b\"id_data\":\"mac\",\"pubkey\":\"key\",\"tenant_token\":\"acme\"\x7d"

/-- Two tenants register, accept and serve a device each. -/
def turns : List Turn :=
  [turn (.statusChanged .default "d" .rejected) 108,
    turn (.operation (.listDevices .default ⟨0, 10⟩)) 107,
    turn (.operation (.setStatus ⟨"acme"⟩ "d" .rejected)) 106,
    turn (.verifyAsGiven token.raw) 105,
    turn (.operation (.revokeToken ⟨"acme"⟩ "t1")) 104,
    turn (.operation (.issue "t2" ⟨"acme"⟩ "e")) 103,
    turn (.operation (.issue "t1" .default "d")) 102,
    turn (.operation (.setStatus ⟨"acme"⟩ "e" .accepted)) 101,
    turn (.operation (.setStatus .default "d" .accepted)) 101,
    turn (.operation (.submit ⟨"e", "t3"⟩ acmeBody (some "Ng=="))) 100,
    turn (.operation (.submit ⟨"d", "t0"⟩ body (some "IA=="))) 99]

/-- What is asked for the other tenant changes nothing for the default tenant. -/
theorem answers_of_default :
    (turns.map fun u => u.isElsewhere shared .default) =
        [false, false, true, false, true, true, false, true, false, true, false] ∧
      (shared.session .memory (turns.filter fun u => !u.isElsewhere shared .default)).1 =
        (shared.session .memory turns).1.filter (fun e => !e.turn.isElsewhere shared .default) ∧
      ((shared.session .memory turns).2.part .default).Shuffled
        ((shared.session .memory (turns.filter fun u => !u.isElsewhere shared .default)).2.part
          .default) := by
  refine ⟨by decide +kernel, ?_⟩
  apply Session.answers_of_tenant (.of_turns shared .memory turns) (.of_turns shared .memory _)
  · rw [Admission.turns_session, Admission.turns_session]
  · rw [Admission.turns_session]
    exact ⟨by decide +kernel, by decide +kernel⟩

/-- The device of the default tenant had one token, whatever was asked for the other tenant. -/
example : (shared.session .tables turns).1.head?.map Served.answer = some (.ok (.revoked 1)) := by
  decide +kernel

end Sample

end DeviceAdmission
