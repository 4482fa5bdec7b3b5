import FleetConsole.Proofs.Turn
import FleetConsole.Service.Api
import Mathlib.Data.List.Basic

/-!
# Commands are all or nothing

A command passes three layers.  The API asks the limiter, the session looks for a way to the swarm,
and the console asks for an open lock and a fleet.  Each layer can refuse, and the lock is taken only
after the last of them has agreed: a command that is refused changes nothing but that the limiter was
asked once more.

* **The session.**  `Linked` says that there is a way to the swarm.  `AtRest.step_sent` and
  `AtRest.step_refused` are all that a command does to a session between two inputs.
* **The service.**  `request_eq` turns a step of the session into one of the service, and
  `respond_command` an answer of the API into one of the session.

`commands_all_or_nothing` puts them together.
-/

namespace FleetConsole

open Console Http

/-! ## What is asked for -/

/-- The command that a well-formed request asks for, by the length of a step. -/
def Http.Request.command? (commandStep : Float) (request : Http.Request) :
    Option FleetConsole.Request :=
  if request.method = "POST" then
    match Route.ofPath? request.path with
    | some .goHome => some .goHome
    | some .move =>
        match Service.hasJson request, MoveRequest.ofBody request.body with
        | true, .request asked => some (.move (asked.move commandStep))
        | _, _ => none
    | _ => none
  else none

/-- Where a command sends the drone of a slot. -/
def Request.target? (fleet : Fleet Float) (slot : Nat) : Request → Option (Position Float)
  | .move step => (fleet.liveAt.get? slot).map fun p => (p.add step).ground
  | .goHome => fleet.initialAt.get? slot
  | _ => none

/-- The targets of a command are those of its drones, in the order of the slots. -/
theorem Request.getElem?_targets {fleet : Fleet Float} (h : fleet.Aligned) {command : Request}
    {targets : Fleet Float → List (Position Float)} (htargets : command.targets? = some targets) :
    (targets fleet).length = fleet.size ∧
      ∀ slot, (targets fleet)[slot]? = command.target? fleet slot := by
  cases command with
  | move step =>
      obtain rfl : Fleet.moveTargets step = targets := Option.some.inj htargets
      refine ⟨?_, fun slot => ?_⟩
      · rw [Fleet.moveTargets, List.length_map, Fleet.live, Slots.length_values]
        rfl
      · rw [Fleet.moveTargets, List.getElem?_map, Fleet.live, Slots.getElem?_values h.live]
        rfl
  | goHome =>
      obtain rfl : Fleet.homeTargets = targets := Option.some.inj htargets
      have hsize : fleet.initialAt.size = fleet.size :=
        Slots.size_eq_of_numbers_eq (h.initial.trans h.live.symm)
      refine ⟨?_, fun slot => ?_⟩
      · rw [Fleet.homeTargets, Fleet.initial, Slots.length_values, hsize]
      · rw [Fleet.homeTargets, Fleet.initial, Slots.getElem?_values h.initial]
        rfl
  | openFeed | batch | closeFeed | commit => cases htargets

/-- A well-formed request is one of two. -/
theorem Http.Request.command?_eq_some {commandStep : Float} {request : Http.Request}
    {command : FleetConsole.Request} (hcommand : request.command? commandStep = some command) :
    request.method = "POST" ∧
      (Route.ofPath? request.path = some .goHome ∧ command = .goHome ∨
        Route.ofPath? request.path = some .move ∧ Service.hasJson request = true ∧
          ∃ asked, MoveRequest.ofBody request.body = .request asked ∧
            command = .move (asked.move commandStep)) := by
  simp only [command?] at hcommand
  split at hcommand
  · rename_i hmethod
    refine ⟨hmethod, ?_⟩
    split at hcommand
    · rename_i hroute
      exact .inl ⟨hroute, (Option.some.inj hcommand).symm⟩
    · rename_i hroute
      split at hcommand
      · rename_i asked hjson hbody
        exact .inr ⟨hroute, hjson, asked, hbody, (Option.some.inj hcommand).symm⟩
      · cases hcommand
    · cases hcommand
  · cases hcommand

theorem Http.Request.targets_of_command? {commandStep : Float} {request : Http.Request}
    {command : FleetConsole.Request} (hcommand : request.command? commandStep = some command) :
    ∃ targets, command.targets? = some targets := by
  obtain ⟨-, ⟨-, rfl⟩ | ⟨-, -, asked, -, rfl⟩⟩ := command?_eq_some hcommand
  · exact ⟨_, rfl⟩
  · exact ⟨_, rfl⟩

/-! ## The three conditions of a command -/

/-- There is a way to the swarm: a feed is connected, and its outbox takes one more command. -/
structure Session.Linked (session : Session) : Prop where
  connected : ∃ id since, session.feed = .connected id since
  taken : session.outbox.abandoned = false
  room : session.outbox.waiting.length < session.outbox.capacity

namespace Session

variable {session : Session} {now : Nat} {pace : UInt32} {settings : ConsoleSettings Float}

theorem canSend_of_linked (h : session.Linked) : session.canSend = .ok () := by
  obtain ⟨id, since, hfeed⟩ := h.connected
  have hroom : session.outbox.hasRoom = true := by simp [Outbox.hasRoom, h.taken, h.room]
  simp only [canSend, hfeed, hroom, if_true]

/-- Without a way to the swarm a command is unavailable. -/
theorem clearance_of_not_linked (h : ¬ session.Linked) :
    ∃ refusal, session.clearance = .error refusal ∧ (ApiError.ofRefusal refusal).status = 503 := by
  have hrefused (refusal : Refusal) (hsend : session.canSend = .error refusal) :
      session.clearance = .error refusal := by
    rw [clearance, hsend]
    rfl
  cases hfeed : session.feed with
  | waiting => exact ⟨.notConnected, hrefused _ (by rw [canSend, hfeed]), rfl⟩
  | closed since => exact ⟨.transportClosed, hrefused _ (by rw [canSend, hfeed]), rfl⟩
  | connected id since =>
      have hfull : ¬ session.outbox.hasRoom = true := fun hroom => by
        simp only [Outbox.hasRoom, Bool.and_eq_true, Bool.not_eq_true', decide_eq_true_eq] at hroom
        exact h ⟨⟨id, since, hfeed⟩, hroom.1, hroom.2⟩
      exact ⟨.notConnected, hrefused _ (by simp only [canSend, hfeed, if_neg hfull]), rfl⟩

theorem clearance_of_linked (h : session.Linked) : session.clearance = session.console.ready := by
  rw [clearance, canSend_of_linked h]
  rfl

/-- With a way to the swarm a command is in conflict with the one that is out, or with there being
no fleet. -/
theorem clearance_of_not_ready (h : session.Linked)
    (hready : session.console.locked = true ∨ session.console.fleet.size = 0) :
    ∃ refusal, session.clearance = .error refusal ∧ (ApiError.ofRefusal refusal).status = 409 := by
  rw [clearance_of_linked h]
  by_cases hlocked : session.console.locked = true
  · exact ⟨.commandsLocked, by rw [ready, if_pos hlocked], rfl⟩
  · have hempty := hready.resolve_left hlocked
    exact ⟨.emptyFleet, by rw [ready, if_neg hlocked, if_pos hempty], rfl⟩

theorem clearance_of_ready (h : session.Linked) (hopen : session.console.locked = false)
    (hfleet : session.console.fleet.size ≠ 0) : session.clearance = .ok () := by
  rw [clearance_of_linked h, ready, hopen, if_neg Bool.false_ne_true, if_neg hfleet]

/-! ## A command in a session -/

/-- A command that is refused leaves the session as it was, and nothing is published. -/
theorem AtRest.step_refused (h : session.AtRest pace) {command : Request}
    {targets : Fleet Float → List (Position Float)} (htargets : command.targets? = some targets)
    {refusal : Refusal} (hclear : session.clearance = .error refusal) (now : Nat) :
    session.step now (.request command) = (session, .refused refusal, none) := by
  apply h.step_of_take
  rw [take_command htargets, hclear]

/-- A session that has sent a command and published that, field by field. -/
theorem AtRest.renewed_send_eq (h : session.AtRest pace) (targets : List (Position Float)) :
    let console := { session.console with locked := true }
    let snapshot := console.snapshot (session.publisher.seq + 1) session.feed
    (session.send targets).renewed =
      { session with
        console := console
        publisher := { session.publisher with ticks := 0, seq := snapshot.seq }
        outbox := { session.outbox with waiting := session.outbox.waiting ++ [targets] }
        latest := snapshot } := by
  intro console snapshot
  -- at rest nothing is forced and nothing pending, and so it is again after the publication
  have hpublisher : (session.send targets).renewed.publisher =
      { session.publisher with ticks := 0, seq := snapshot.seq } := by
    show Publisher.mk _ _ false _ [] = Publisher.mk _ _ session.publisher.forced _ _
    rw [h.forced, h.pending]
    rfl
  exact congrArg (fun publisher => { (session.send targets).renewed with publisher := publisher })
    hpublisher

theorem AtRest.renewed_send (h : session.AtRest pace) (targets : List (Position Float)) :
    (session.send targets).renewed.AtRest pace :=
  ⟨h.interval, UInt32.lt_of_le_of_lt UInt32.zero_le h.ticks, rfl, rfl, h.armed⟩

/-- A command that is sent is published at once, and alone. -/
theorem AtRest.step_sent (h : session.AtRest pace) {command : Request}
    {targets : Fleet Float → List (Position Float)} (htargets : command.targets? = some targets)
    (hclear : session.clearance = .ok ()) (now : Nat) :
    let sent := (session.send (targets session.console.fleet)).renewed
    session.step now (.request command) =
      (sent, .targets (targets session.console.fleet),
        some ⟨now, sent.latest, [.commandSent (targets session.console.fleet)]⟩) := by
  intro sent
  have hdue : (session.send (targets session.console.fleet)).publisher.isDue = true := by
    simp [send, record, Publisher.record, Publisher.isDue]
  have hpending : (session.send (targets session.console.fleet)).publisher.pending =
      [.commandSent (targets session.console.fleet)] := by
    show session.publisher.pending ++ _ = _
    rw [h.pending, List.nil_append]
  have hpublish : (session.send (targets session.console.fleet)).publish now =
      (sent, some ⟨now, sent.latest, [.commandSent (targets session.console.fleet)]⟩) := by
    simp only [publish, hdue, if_true, Publisher.publish, hpending]
    rfl
  have harm : sent.arm now = sent := (h.renewed_send _).arm now
  rw [step_eq, take_command htargets, hclear]
  simp only [hpublish, harm]

end Session

/-! ## A command in a service -/

namespace Service

variable {service : Service} {request : Http.Request}
  {command : FleetConsole.Request}

/-- A well-formed request is counted and given to the session. -/
theorem dispatch_command (spelling : Spelling)
    (hcommand : request.command? service.settings.commandStep = some command) :
    service.dispatch spelling request = service.limited command := by
  obtain ⟨hmethod, hroute⟩ := Http.Request.command?_eq_some hcommand
  have hhead : ¬ request.method = "HEAD" := by
    rw [hmethod]
    decide
  rcases hroute with ⟨hroute, rfl⟩ | ⟨hroute, hjson, asked, hbody, rfl⟩
  · have hpost : Route.goHome.hasMethod request.method = true := by
      rw [hmethod]
      rfl
    simp only [dispatch, hroute, hpost, if_true, if_neg hhead, routed]
  · have hpost : Route.move.hasMethod request.method = true := by
      rw [hmethod]
      rfl
    simp only [dispatch, hroute, hpost, if_true, if_neg hhead, routed, move, hjson, hbody]

theorem status_withOrigin (clientOrigin : String) (response : Response) :
    (withOrigin clientOrigin request response).status = response.status := by
  rw [withOrigin]
  split
  · split <;> rfl
  · rfl

theorem body_withOrigin (clientOrigin : String) (response : Response) :
    (withOrigin clientOrigin request response).body = response.body := by
  rw [withOrigin]
  split
  · split <;> rfl
  · rfl

/-- What all answers have in common is in their headers. -/
theorem respond_command (spelling : Spelling)
    (hcommand : request.command? service.settings.commandStep = some command) :
    (service.respond spelling request).1 = (service.limited command).1 ∧
      (service.respond spelling request).2.status = (service.limited command).2.status ∧
      (service.respond spelling request).2.body = (service.limited command).2.body := by
  obtain ⟨hmethod, -⟩ := Http.Request.command?_eq_some hcommand
  have hoptions : ¬ request.method = "OPTIONS" := by
    rw [hmethod]
    decide
  have hrespond : service.respond spelling request =
      ((service.limited command).1,
        withOrigin (service.limited command).1.settings.clientOrigin request
          ((service.limited command).2.withHeader "x-request-id"
            (requestName spelling request))) := by
    simp only [respond, if_neg hoptions, dispatch_command spelling hcommand]
  rw [hrespond]
  exact ⟨rfl, status_withOrigin _ _, body_withOrigin _ _⟩

theorem limited_of_refused (h : service.limiter.check.2 = false) :
    service.limited command =
      ({ service with limiter := service.limiter.check.1 }, ApiError.tooManyCommands.response) := by
  simp only [limited, h, Bool.false_eq_true, if_false]

/-- A command that the limiter allows is answered as the session replies. -/
theorem limited_of_allowed (h : service.limiter.check.2 = true)
    {targets : Fleet Float → List (Position Float)} (htargets : command.targets? = some targets) :
    let asked := { service with limiter := service.limiter.check.1 }.request command
    service.limited command = (asked.1.atOnce, answer asked.2) := by
  intro asked
  simp only [limited, h, if_true]
  -- a command opens no feed, so the outbox stays with the session that has brought it
  cases command with
  | move | goHome => rfl
  | openFeed | batch | closeFeed | commit => cases htargets

/-- A request to a service that has not stopped is one to its session, and the views are shown what
that publishes. -/
theorem request_eq (service : Service) (hserving : service.stopped = false) {session : Session}
    {reply : Reply} {publication : Option (Publication Float)}
    (hstep : service.session.step service.now (.request command) = (session, reply, publication)) :
    service.request command =
      ({ service with
        session := session
        gallery := publication.elim service.gallery fun p => service.gallery.publish p }, reply) := by
  simp only [request, input, hserving, Bool.false_eq_true, if_false, hstep]

theorem request_refused (service : Service) (hserving : service.stopped = false) {pace : UInt32}
    (hrest : service.session.AtRest pace) {targets : Fleet Float → List (Position Float)}
    (htargets : command.targets? = some targets) {refusal : Refusal}
    (hclear : service.session.clearance = .error refusal) :
    service.request command = (service, .refused refusal) :=
  request_eq service hserving (hrest.step_refused htargets hclear service.now)

/-- A command that is sent changes the session and is shown to the views. -/
theorem request_sent (service : Service) (hserving : service.stopped = false) {pace : UInt32}
    (hrest : service.session.AtRest pace) {targets : Fleet Float → List (Position Float)}
    (htargets : command.targets? = some targets) (hclear : service.session.clearance = .ok ()) :
    let sent := (service.session.send (targets service.session.console.fleet)).renewed
    service.request command =
      ({ service with
        session := sent
        gallery := service.gallery.publish ⟨service.now, sent.latest,
          [.commandSent (targets service.session.console.fleet)]⟩ },
        .targets (targets service.session.console.fleet)) :=
  request_eq service hserving (hrest.step_sent htargets hclear service.now)

end Service

/-- **Commands are all or nothing.**  Take a service whose session has gone through anything and is
still running, and a well-formed request for a command.

* If the limiter refuses, whatever it goes by, the answer is 429, and all that has happened is that
  it was asked.
* Without a way to the swarm the answer is 503, and while a command is out or without a fleet it is
  409.  What the session has done is nothing.
* Else it is 200 and names the targets, one for every drone, in the order of the slots.  They are the
  last command in the outbox, the lock is taken, and one event that tells them is published, with
  nothing else; all other parts of the service are as before. -/
theorem commands_all_or_nothing (settings : ConsoleSettings Float) (viewRate : UInt32)
    (happenings : List Happening) (service : Service) (spelling : Spelling)
    (request : Http.Request) (command : FleetConsole.Request)
    (hsession : service.session = ((Session.fresh settings viewRate).undergo happenings).1)
    (hserving : service.stopped = false)
    (hcommand : request.command? service.settings.commandStep = some command) :
    let session := service.session
    let answered := service.respond spelling request
    let counted := { service with limiter := service.limiter.check.1 }
    let done := (counted.request command).1
    (service.limiter.check.2 = false → answered.2.status = 429 ∧ answered.1 = counted) ∧
      (service.limiter.check.2 = true → answered.1 = done.atOnce ∧
        (¬ session.Linked → answered.2.status = 503 ∧ done = counted) ∧
        (session.Linked → session.console.locked = true ∨ session.console.fleet.size = 0 →
          answered.2.status = 409 ∧ done = counted) ∧
        (session.Linked → session.console.locked = false → session.console.fleet.size ≠ 0 →
          ∃ targets, answered.2.status = 200 ∧
            answered.2.body = .json (.object
              [("status", .string "sent"), ("targets", positionsJson targets)]) ∧
            targets.length = session.console.fleet.size ∧
            (∀ slot, targets[slot]? = command.target? session.console.fleet slot) ∧
            let console := { session.console with locked := true }
            let snapshot := console.snapshot (session.publisher.seq + 1) session.feed
            done = { counted with
              session := { session with
                console := console
                publisher := { session.publisher with ticks := 0, seq := snapshot.seq }
                outbox := { session.outbox with waiting := session.outbox.waiting ++ [targets] }
                latest := snapshot }
              gallery := service.gallery.publish
                ⟨service.now, snapshot, [.commandSent targets]⟩ })) := by
  intro session answered counted done
  obtain ⟨targets, htargets⟩ := Http.Request.targets_of_command? hcommand
  obtain ⟨hafter, hstatus, hbody⟩ := Service.respond_command spelling hcommand
  refine ⟨fun hrefused => ?_, fun hallowed => ?_⟩
  · rw [Service.limited_of_refused hrefused] at hafter hstatus
    exact ⟨hstatus, hafter⟩
  rw [Service.limited_of_allowed hallowed htargets] at hafter hstatus hbody
  have hrest := Session.undergo_atRest settings viewRate happenings
  have hcoherent := Session.undergo_coherent settings viewRate happenings
  rw [← hsession] at hrest hcoherent
  -- whoever refuses, session or console, the answer is its refusal and nothing else has happened
  have hrefused (refusal : Refusal) (hclear : session.clearance = .error refusal) :
      answered.2.status = (ApiError.ofRefusal refusal).status ∧ done = counted := by
    have hrequest : counted.request command = (counted, .refused refusal) :=
      Service.request_refused counted hserving hrest htargets hclear
    rw [hrequest] at hstatus
    exact ⟨hstatus, congrArg Prod.fst hrequest⟩
  refine ⟨hafter, fun hunlinked => ?_, fun hlinked hready => ?_, fun hlinked hopen hfleet => ?_⟩
  · obtain ⟨refusal, hclear, hrefusal⟩ := Session.clearance_of_not_linked hunlinked
    exact hrefusal ▸ hrefused refusal hclear
  · obtain ⟨refusal, hclear, hrefusal⟩ := Session.clearance_of_not_ready hlinked hready
    exact hrefusal ▸ hrefused refusal hclear
  · have hclear := Session.clearance_of_ready hlinked hopen hfleet
    have hrequest : counted.request command = _ :=
      Service.request_sent counted hserving hrest htargets hclear
    rw [hrequest] at hstatus hbody
    rw [hrest.renewed_send_eq] at hrequest
    obtain ⟨hlength, hslots⟩ := Request.getElem?_targets hcoherent.aligned htargets
    exact ⟨targets session.console.fleet, hstatus, hbody, hlength, hslots,
      congrArg Prod.fst hrequest⟩

/-- A feed is connected and has brought two drones. -/
def twoDrones : List Happening :=
  [.input 0 (.request (.openFeed (.numbered 1) 8)),
    .input 10 (.request (.batch (.numbered 1) "\x7b\"Drones\":[[0,5,0],[2,1,0]]\x7d"))]

/-- A service with the usual settings whose session has two drones, and whose limiter has refused the
only command so far and allows all others. -/
def twoDroneService : Service :=
  let settings : Settings :=
    { address := .v4 ⟨127, 0, 0, 1⟩ 8080, logLevel := "info", logJson := false
      clientOrigin := "http://localhost:8080", staticDir := none, moveMilliseconds := 1000
      frequency := 30, yOffset := 0.5, commandStep := 1.0, viewRate := 30, commandRate := 5 }
  { Service.start ⟨1, fun before => before ≠ 0⟩ settings with
    session := ((Session.fresh settings.console settings.viewRate).undergo twoDrones).1 }

/-- A request that all drones move by so much, three units of it downwards. -/
def descent : Http.Request :=
  ⟨"POST", "/api/commands/move", [("content-type", "application/json")],
    "\x7b\"delta\":\x7b\"X\":1,\"Y\":-3,\"Z\":0\x7d\x7d"⟩

theorem commands_all_or_nothing_twoDrones :
    let spelling : Spelling := ⟨toString, fun _ => .null, fun _ => .null, fun _ => "feed", "1"⟩
    let answered := twoDroneService.respond spelling descent
    let counted := { twoDroneService with limiter := twoDroneService.limiter.check.1 }
    let done := (counted.request (.move ⟨1, -3, 0⟩)).1
    descent.command? twoDroneService.settings.commandStep = some (.move ⟨1, -3, 0⟩) ∧
      twoDroneService.limiter.check.2 = true ∧ twoDroneService.session.Linked ∧
      twoDroneService.session.console.locked = false ∧
      twoDroneService.session.console.fleet.size = 2 ∧ answered.2.status = 200 ∧
      answered.2.body = .json (.object [("status", .string "sent"),
        ("targets", .list [.object [("X", .real 1), ("Y", .real 2), ("Z", .real 0)],
          .object [("X", .real 3), ("Y", .real 0), ("Z", .real 0)]])]) ∧
      done.session.outbox.waiting = [[⟨1, 2, 0⟩, ⟨3, 0, 0⟩]] ∧
      done.session.console.locked = true := by
  intro spelling
  have hcommand : descent.command? twoDroneService.settings.commandStep =
      some (.move ⟨1, -3, 0⟩) := by decide +kernel
  have hallowed : twoDroneService.limiter.check.2 = true := rfl
  have hlinked : twoDroneService.session.Linked := ⟨⟨.numbered 1, 0, rfl⟩, rfl, by decide⟩
  have hfleet : twoDroneService.session.console.fleet.size = 2 := rfl
  obtain ⟨-, hall⟩ := commands_all_or_nothing _ _ twoDrones twoDroneService spelling descent
    (.move ⟨1, -3, 0⟩) rfl rfl hcommand
  obtain ⟨-, -, -, hsent⟩ := hall hallowed
  obtain ⟨targets, hstatus, hbody, hlength, hslots, hdone⟩ :=
    hsent hlinked rfl (by rw [hfleet]; decide)
  have hfirst : (Request.move ⟨1, -3, 0⟩).target? twoDroneService.session.console.fleet 0 =
      some ⟨1, 2, 0⟩ := by decide +kernel
  -- the second drone would go below the ground
  have hsecond : (Request.move ⟨1, -3, 0⟩).target? twoDroneService.session.console.fleet 1 =
      some ⟨3, 0, 0⟩ := by decide +kernel
  obtain ⟨first, second, rfl⟩ := List.length_eq_two.mp (hlength.trans hfleet)
  obtain rfl := Option.some.inj ((hslots 0).trans hfirst)
  obtain rfl := Option.some.inj ((hslots 1).trans hsecond)
  refine ⟨hcommand, hallowed, hlinked, rfl, hfleet, hstatus, hbody, ?_, ?_⟩
  · rw [hdone]
    rfl
  · rw [hdone]

end FleetConsole
