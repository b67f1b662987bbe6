/-
**The life of a channel.**

What was done with a channel and what came of it make up a history, and the state of the channel can
be told from it: its method is the one that was set last, its headers are those that were taken, its
body is what was written.  Asking sends the request that the history makes, and the first answer of
the service is kept.  From then on, and also from the moment when the channel is disconnected, nothing
more is sent.

Main definitions:

* `ServiceClient.Wire.Draft`, `ServiceClient.Wire.drafted`: what a history makes of the request;
* `ServiceClient.Wire.Tracks`: a state that agrees with a history;
* `ServiceClient.Wire.Exchanges`: what comes of asking while there is no response;
* `ServiceClient.Wire.Lifetime`: what holds of a channel for its whole life.

Main results:

* `ServiceClient.Wire.Performs.draft_eq`: one use, and what it makes of the request;
* `ServiceClient.Wire.Tracks.perform`: one more use, and the state still agrees with the history;
* `ServiceClient.Wire.Usage.Quiet.service_after`: a channel that is quiet stays quiet;
* `ServiceClient.Wire.lifetime`: **the life of a channel**, over all uses and against any service.
-/

import ServiceClient.Proofs.Wire.Uses

set_option autoImplicit false

namespace ServiceClient.Wire

/-! ### What a use changes -/

section Changes

variable {x y : Usage} {u : Use} {o : Outcome}

/-- A use keeps track of the stream that takes the body. -/
theorem Performs.sound (h : Performs x u (o, y)) (hx : x.Sound) : y.Sound := by
  cases h with
  | opened _ => exact .inr ⟨rfl, _, rfl⟩
  | written data hb =>
      rcases hx with hnone | ⟨hsink, -⟩
      · exact .inl hnone
      · exact .inr ⟨hsink, _, rfl⟩
  | closed hb =>
      rcases hx with hnone | ⟨hsink, -⟩
      · exact .inl hnone
      · exact .inr ⟨hsink, _, rfl⟩
  | asked streams _ hresponds _ _ =>
      cases hresponds <;> exact hx
  | _ => exact hx

/-- The service stays as it is unless it is asked, and also if there is a response already or the
channel is disconnected. -/
theorem Performs.service_eq (h : Performs x u (o, y))
    (hx : u.asks = true → x.channel.response ≠ none ∨ x.channel.disconnected = true) :
    y.session.service = x.session.service := by
  have hidle (hasks : u.asks = true) (hnone : x.channel.response = none)
      (hopen : x.channel.disconnected = false) : False := by
    rcases hx hasks with hsome | hdisc
    · exact hsome hnone
    · rw [hopen] at hdisc
      cases hdisc
  cases h with
  | asked streams hasks hresponds _ _ =>
      cases hresponds with
      | unanswered hnone hopen => exact (hidle hasks hnone hopen).elim
      | answered hnone hopen _ _ => exact (hidle hasks hnone hopen).elim
      | _ => rfl
  | _ => rfl

/-- A response that is there stays, with its status. -/
theorem Performs.status_eq (h : Performs x u (o, y)) {status : Int}
    (hx : x.channel.response.map Response.status = some status) :
    y.channel.response.map Response.status = some status := by
  cases h with
  | asked streams _ hresponds _ _ =>
      cases hresponds with
      | answered hnone _ _ _ =>
          rw [Usage.channel, hnone] at hx
          cases hx
      | _ => exact hx
  | disconnected _ hstatus => exact hstatus.trans hx
  | _ => exact hx

/-- What comes with a response: the service was asked, and it answered the request of the channel. -/
theorem Performs.answered (h : Performs x u (o, y)) (hx : x.channel.response = none)
    (hy : y.channel.response ≠ none) :
    u.asks = true ∧ x.channel.disconnected = false ∧ ∃ r response, x.channel.request = .ok r ∧
      Service.send r none x.session.service = (.ok response, y.session.service) := by
  cases h with
  | asked streams hasks hresponds _ _ =>
      cases hresponds with
      | answered _ hopen hrequest hsend => exact ⟨hasks, hopen, _, _, hrequest, hsend⟩
      | _ => exact absurd hx hy
  | @disconnected _ response _ hstatus =>
      rw [hx, Option.map_none, Option.map_eq_none_iff] at hstatus
      exact absurd hstatus hy
  | _ => exact absurd hx hy

/-- A disconnected channel stays so, and nothing else disconnects it. -/
theorem Performs.disconnected_iff (h : Performs x u (o, y)) :
    y.channel.disconnected = true ↔ x.channel.disconnected = true ∨ u = .disconnect := by
  cases h with
  | asked streams hasks hresponds _ _ =>
      have hother : u ≠ .disconnect := by
        rintro rfl
        cases hasks
      cases hresponds <;> simp [Usage.channel, hother]
  | again hdisc => simp [hdisc]
  | disconnected _ _ => simp [Usage.channel, Usage.withChannel]
  | _ => simp [Usage.channel, Usage.withChannel]

/-- What serves the channel is closed by the first disconnecting. -/
theorem Performs.closings_eq (h : Performs x u (o, y))
    (hx : x.channel.closings = if x.channel.disconnected then 1 else 0) :
    y.channel.closings = if y.channel.disconnected then 1 else 0 := by
  cases h with
  | asked streams _ hresponds _ _ => cases hresponds <;> exact hx
  | disconnected hopen _ =>
      rw [hopen] at hx
      simp [Usage.channel, Usage.withChannel] at hx ⊢
      exact hx
  | _ => exact hx

/-- The address of a channel stays. -/
theorem Performs.url_eq (h : Performs x u (o, y)) : y.channel.url = x.channel.url := by
  cases h with
  | asked streams _ hresponds _ _ => cases hresponds <;> rfl
  | _ => rfl

end Changes

/-! ### What a history tells -/

/-- What a request is made from. -/
structure Draft where
  method : String
  headers : Headers
  content : Bytes

/-- What the request of a channel is made from. -/
def Channel.draft (c : Channel) : Draft where
  method := c.method
  headers := c.headers
  content := (c.body.map RequestBody.content).getD []

theorem Channel.draft_content {c : Channel} {b : RequestBody} (h : c.body = some b) :
    c.draft.content = b.content := by
  rw [draft, h]
  rfl

def methodOf : Use × Outcome → Option String
  | (.setMethod method, _) => some method
  | _ => none

def headerOf : Use × Outcome → Option (String × String)
  | (.setHeader name value, .done) => some (name, value)
  | _ => none

def dataOf : Use × Outcome → Bytes
  | (.write data, .done) => data
  | _ => []

/-- What a history makes of a request: the method that was set last, the headers that were taken, in
their order, and all bytes that were taken. -/
def drafted (h : List (Use × Outcome)) : Draft where
  method := (h.filterMap methodOf).getLast?.getD "GET"
  headers := h.filterMap headerOf
  content := h.flatMap dataOf

/-- What one more use makes of it. -/
def Draft.add (d : Draft) (e : Use × Outcome) : Draft where
  method := (methodOf e).getD d.method
  headers := d.headers ++ (headerOf e).toList
  content := d.content ++ dataOf e

theorem drafted_concat (h : List (Use × Outcome)) (e : Use × Outcome) :
    drafted (h ++ [e]) = (drafted h).add e := by
  cases hm : methodOf e <;> cases hh : headerOf e <;> simp [drafted, Draft.add, hm, hh]

theorem Draft.add_method (d : Draft) (method : String) (o : Outcome) :
    d.add (.setMethod method, o) = { d with method } := by
  simp [add, methodOf, headerOf, dataOf]

theorem Draft.add_header (d : Draft) (name value : String) :
    d.add (.setHeader name value, .done) = { d with headers := d.headers ++ [(name, value)] } := by
  simp [add, methodOf, headerOf, dataOf]

theorem Draft.add_data (d : Draft) (data : Bytes) :
    d.add (.write data, .done) = { d with content := d.content ++ data } := by
  simp [add, methodOf, headerOf, dataOf]

/-- What makes nothing of the request. -/
theorem Draft.add_of_none {e : Use × Outcome} (hm : methodOf e = none) (hh : headerOf e = none)
    (hd : dataOf e = []) (d : Draft) : d.add e = d := by
  simp [add, hm, hh, hd]

/-- **One use, and what it makes of the request.** -/
theorem Performs.draft_eq {x y : Usage} {u : Use} {o : Outcome} (h : Performs x u (o, y)) :
    y.channel.draft = x.channel.draft.add (u, o) := by
  cases h with
  | method method =>
      rw [Draft.add_method]
      rfl
  | header name value _ =>
      rw [Draft.add_header]
      rfl
  | written data hb =>
      rw [Draft.add_data, Channel.draft_content hb]
      rfl
  | unwritten data ho =>
      have hnone : dataOf (.write data, o) = [] := by
        cases o with
        | done => exact absurd rfl ho
        | _ => rfl
      exact (Draft.add_of_none rfl rfl hnone _).symm
  | opened =>
      rw [Draft.add_of_none rfl rfl rfl]
      simp only [Channel.draft]
      congr 1
      change ((some (x.channel.body.getD {})).map RequestBody.content).getD [] = _
      cases x.channel.body <;> rfl
  | closed hb =>
      rw [Draft.add_of_none rfl rfl rfl]
      simp only [Channel.draft]
      congr 1
      rw [hb]
      rfl
  | asked streams hasks hresponds _ _ =>
      have hnone : methodOf (u, o) = none ∧ headerOf (u, o) = none ∧ dataOf (u, o) = [] := by
        cases u with
        | status => exact ⟨rfl, rfl, rfl⟩
        | input => exact ⟨rfl, rfl, rfl⟩
        | _ => cases hasks
      rw [Draft.add_of_none hnone.1 hnone.2.1 hnone.2.2]
      cases hresponds <;> rfl
  | _ => exact (Draft.add_of_none rfl rfl rfl _).symm

/-- What comes of asking while there is no response, in terms of a draft: its request is sent, if it
can be built, and the answer of the service is kept. -/
inductive Exchanges (url : String) (d : Draft) (x y : Usage) : Use × Outcome → Prop
  | unbuilt {u : Use} {f : Failure} :
      Url.parse? url = none ∨ Headers.isAscii d.headers = false →
      y.session.service = x.session.service → y.channel.response = none →
      Exchanges url d x y (u, .failed f)
  | unanswered {u : Use} {r : Request} {f f' : Failure} :
      Request.build d.method url d.headers d.content = .ok r →
      Service.send r none x.session.service = (.error f', y.session.service) →
      y.channel.response = none → Exchanges url d x y (u, .failed f)
  | answered {u : Use} {o : Outcome} {r : Request} {response : Response} {more : List Request} :
      Request.build d.method url d.headers d.content = .ok r →
      Service.send r none x.session.service = (.ok response, y.session.service) →
      y.session.service.reached = x.session.service.reached ++ r.authorized :: more →
      Carries url d.method d.headers d.content r.authorized →
      y.channel.response = some response → (u = .status → o = .status response.status) →
      Exchanges url d x y (u, o)

/-- **Asking while there is no response is an exchange.** -/
theorem Performs.exchanges {x y : Usage} {u : Use} {o : Outcome} (h : Performs x u (o, y))
    (hasks : u.asks = true) (hnone : x.channel.response = none)
    (hopen : x.channel.disconnected = false) :
    Exchanges x.channel.url x.channel.draft x y (u, o) := by
  cases h with
  | asked streams _ hresponds hfail hstatus =>
      cases hresponds with
      | kept hkept => cases hnone.symm.trans hkept
      | disconnected _ hdisc _ => cases hopen.symm.trans hdisc
      | unbuilt _ _ hrequest =>
          obtain rfl := hfail _ rfl
          exact .unbuilt (Request.of_build_error hrequest) rfl hnone
      | unanswered _ _ hrequest hsend =>
          obtain rfl := hfail _ rfl
          exact .unanswered hrequest hsend hnone
      | answered _ _ hrequest hsend =>
          obtain ⟨more, hmore⟩ := Service.reached_of_send hsend
          exact .answered hrequest hsend hmore (carries_of_build hrequest) rfl (hstatus _ rfl)
  | _ => cases hasks

/-! ### All uses -/

/-- A state that agrees with a history. -/
structure Tracks (url : String) (h : List (Use × Outcome)) (x : Usage) : Prop where
  sound : x.Sound
  url_eq : x.channel.url = url
  draft_eq : x.channel.draft = drafted h
  disconnected_iff : x.channel.disconnected = true ↔ .disconnect ∈ h.map (·.1)
  closings_eq : x.channel.closings = if x.channel.disconnected then 1 else 0

section Runs

variable {x y : Usage} {url : String} {h : List (Use × Outcome)}

/-- **One more use, and the state still agrees with the history.** -/
theorem Tracks.perform {u : Use} {o : Outcome} (hx : Tracks url h x) (hu : Performs x u (o, y)) :
    Tracks url (h ++ [(u, o)]) y where
  sound := hu.sound hx.sound
  url_eq := hu.url_eq.trans hx.url_eq
  draft_eq := by rw [hu.draft_eq, hx.draft_eq, drafted_concat]
  disconnected_iff := by
    rw [hu.disconnected_iff, hx.disconnected_iff, List.map_append, List.mem_append,
      List.map_singleton, List.mem_singleton, eq_comm (a := u)]
  closings_eq := hu.closings_eq hx.closings_eq

/-- After any uses the state agrees with the history. -/
theorem Tracks.after (hx : Tracks url h x) (us : List Use) :
    Tracks url (h ++ x.history us) (x.after us) := by
  induction us generalizing x h with
  | nil => rwa [Usage.history, List.append_nil]
  | cons u us ih =>
      rw [Usage.history, List.append_cons]
      exact ih (hx.perform (performs hx.sound u))

/-- A channel that asks the service no more. -/
def Usage.Quiet (x : Usage) : Prop :=
  x.channel.response ≠ none ∨ x.channel.disconnected = true

theorem Performs.quiet {u : Use} {o : Outcome} (hu : Performs x u (o, y)) (hx : x.Quiet) :
    y.Quiet := by
  rcases hx with hresponse | hdisc
  · obtain ⟨response, hsome⟩ := Option.ne_none_iff_exists'.mp hresponse
    have hstatus := hu.status_eq (congrArg (Option.map Response.status) hsome)
    refine .inl fun hnone => ?_
    rw [hnone] at hstatus
    cases hstatus
  · exact .inr (hu.disconnected_iff.mpr (.inl hdisc))

/-- Once there is a response, and once the channel is disconnected, nothing reaches the service. -/
theorem Usage.Quiet.service_after (hq : x.Quiet) (hx : x.Sound) (us : List Use) :
    (x.after us).session.service = x.session.service := by
  induction us generalizing x with
  | nil => rfl
  | cons u us ih =>
      have hu := performs hx u
      exact (ih (hu.quiet hq) (hu.sound hx)).trans (hu.service_eq fun _ => hq)

theorem status_after {status : Int} (hx : x.Sound)
    (hstatus : x.channel.response.map Response.status = some status) (us : List Use) :
    (x.after us).channel.response.map Response.status = some status := by
  induction us generalizing x with
  | nil => exact hstatus
  | cons u us ih =>
      have hu := performs hx u
      exact ih (hu.sound hx) (hu.status_eq hstatus)

theorem disconnected_after (hx : x.Sound) (hdisc : x.channel.disconnected = true) (us : List Use) :
    (x.after us).channel.disconnected = true := by
  induction us generalizing x with
  | nil => exact hdisc
  | cons u us ih =>
      have hu := performs hx u
      exact ih (hu.sound hx) (hu.disconnected_iff.mpr (.inl hdisc))

/-- A channel that was disconnected without a response never gets one. -/
theorem response_none_after (hx : x.Sound) (hdisc : x.channel.disconnected = true)
    (hnone : x.channel.response = none) (us : List Use) :
    (x.after us).channel.response = none := by
  induction us generalizing x with
  | nil => exact hnone
  | cons u us ih =>
      have hu := performs hx u
      refine ih (hu.sound hx) (hu.disconnected_iff.mpr (.inl hdisc)) ?_
      refine Classical.byContradiction fun hsome => ?_
      obtain ⟨-, hopen, -⟩ := hu.answered hnone hsome
      rw [hopen] at hdisc
      cases hdisc

/-- Uses that do not ask leave the service as it is. -/
theorem service_after_of_silent (hx : x.Sound) {us : List Use} (hus : ∀ u ∈ us, u.asks = false) :
    (x.after us).session.service = x.session.service := by
  induction us generalizing x with
  | nil => rfl
  | cons u us ih =>
      have hu := performs hx u
      have hsilent : u.asks = false := hus u (.head _)
      have hkept := hu.service_eq fun hasks => by
        rw [hsilent] at hasks
        cases hasks
      exact (ih (hu.sound hx) fun v hv => hus v (.tail _ hv)).trans hkept

end Runs

/-! ### The life of a channel -/

/-- What comes of using a channel that has no response yet: headers are taken, and a stream for the
body is handed out if output is enabled. -/
structure Usage.Unsent (x : Usage) : Prop where
  header_eq : ∀ name value, (x.perform (.setHeader name value)).1 = .done
  output_iff : ∀ enabled,
    ((x.perform (.setOutput enabled)).2.perform .output).1 = .done ↔ enabled = true

/-- What comes of using a channel that has its response: the status is given, no header is taken,
and no stream for the body is handed out. -/
structure Usage.Settled (status : Int) (x : Usage) : Prop where
  status_eq : (x.perform .status).1 = .status status
  header_eq : ∀ name value, ∃ f, x.perform (.setHeader name value) = (.failed f, x)
  output_eq : ∃ f, f.isA .io = true ∧ x.perform .output = (.failed f, x)

/-- What comes of using a channel that was disconnected before it had a response. -/
structure Usage.Gone (x : Usage) : Prop where
  status_eq : ∃ f, f.isA .io = true ∧ (x.perform .status).1 = .failed f
  input_eq : ∃ f, f.isA .io = true ∧ (x.perform .input).1 = .failed f
  errorInput_eq : (x.perform .errorInput).1 = .stream false

/-- What holds of a channel after some uses. -/
structure Lifetime (start : Usage) (us : List Use) : Prop where
  /-- Nothing reaches the service before it is asked. -/
  silent : (∀ u ∈ us, u.asks = false) → (start.after us).session.service = start.session.service
  /-- As long as there is no response, the request can be added to. -/
  unsent : (start.after us).channel.response = none → (start.after us).Unsent
  /-- Asking sends what was applied until then, and what the service answers is kept. -/
  exchanged : ∀ u, u.asks = true → (start.after us).channel.response = none → .disconnect ∉ us →
    Exchanges start.channel.url (drafted (start.history us)) (start.after us)
      (start.after (us ++ [u])) (u, ((start.after us).perform u).1)
  /-- Nothing else brings a response. -/
  sent : ∀ u, (start.after us).channel.response = none →
    (start.after (us ++ [u])).channel.response ≠ none → u.asks = true ∧ .disconnect ∉ us
  /-- With the response, the channel is settled, and nothing more reaches the service. -/
  settled : ∀ response, (start.after us).channel.response = some response → ∀ later,
    (start.after (us ++ later)).session.service = (start.after us).session.service ∧
    (start.after (us ++ later)).Settled response.status
  /-- Once it is disconnected, nothing more reaches the service, and no response comes. -/
  gone : .disconnect ∈ us → ∀ later,
    (start.after (us ++ later)).session.service = (start.after us).session.service ∧
    ((start.after us).channel.response = none → (start.after (us ++ later)).Gone)
  /-- What serves the channel is closed once, by disconnecting. -/
  closings_eq : (start.after us).channel.closings = if .disconnect ∈ us then 1 else 0

/-- A channel that is new, with a service at its end. -/
def Usage.start (url : String) (proxyUrl : Option String) (service : Service)
    (log : List LogEvent) : Usage :=
  { session := { channel := { url, proxyUrl }, service, log } }

section Lives

variable {x : Usage}

/-- What comes of asking while a response is kept. -/
theorem Performs.status_of_response {o : Outcome} {y : Usage} {response : Response}
    (h : Performs x .status (o, y)) (hx : x.channel.response = some response) :
    o = .status response.status := by
  have hother : x.channel.response ≠ none := by simp [hx]
  cases h with
  | asked streams _ hresponds _ hok =>
      cases hresponds with
      | kept hkept =>
          rw [Option.some.inj (hx.symm.trans hkept)]
          exact hok _ rfl rfl
      | disconnected hnone _ _ => exact absurd hnone hother
      | unbuilt hnone _ => exact absurd hnone hother
      | unanswered hnone _ => exact absurd hnone hother
      | answered hnone _ _ _ => exact absurd hnone hother

/-- What comes of asking when the channel is disconnected and there is no response. -/
theorem Performs.failed_of_disconnected {u : Use} {o : Outcome} {y : Usage}
    (h : Performs x u (o, y)) (hasks : u.asks = true) (hdisc : x.channel.disconnected = true)
    (hx : x.channel.response = none) : ∃ f, f.isA .io = true ∧ o = .failed f := by
  have hclosed : x.channel.disconnected ≠ false := by simp [hdisc]
  cases h with
  | asked streams _ hresponds hfail _ =>
      cases hresponds with
      | kept hkept => cases hx.symm.trans hkept
      | disconnected _ _ hio => exact ⟨_, hio, hfail _ rfl⟩
      | unbuilt _ hopen => exact absurd hopen hclosed
      | unanswered _ hopen => exact absurd hopen hclosed
      | answered _ hopen _ _ => exact absurd hopen hclosed
  | _ => cases hasks

theorem unsent_of_none (hnone : x.channel.response = none) : x.Unsent where
  header_eq name value := by
    rw [Usage.perform, act_eq (Session.run_channel (Channel.setHeader_of_none hnone name value))]
    rfl
  output_iff enabled := by
    let y := x.withChannel { x.channel with outputEnabled := enabled }
    change (y.perform .output).1 = .done ↔ enabled = true
    rcases Channel.openOutput_cases none y.channel with
      ⟨-, henabled, hrun⟩ | ⟨f, -, hclosed, hrun⟩
    · rw [Usage.perform, Action.run, output_eq hrun]
      exact ⟨fun _ => henabled, fun _ => rfl⟩
    · rw [output_of_error hrun]
      have hdisabled : enabled = false := hclosed.resolve_left fun h => h hnone
      simp [hdisabled]

theorem settled_of_response {response : Response} (hx : x.Sound)
    (h : x.channel.response = some response) : x.Settled response.status where
  status_eq := (performs hx .status).status_of_response h
  header_eq name value := by
    obtain ⟨f, hf⟩ := Channel.setHeader_of_some h name value
    exact ⟨f, act_eq (Session.run_channel hf) _⟩
  output_eq := by
    rcases Channel.openOutput_cases none x.channel with ⟨hnone, -⟩ | ⟨f, hf, -, hrun⟩
    · rw [h] at hnone
      cases hnone
    · exact ⟨f, hf, output_of_error hrun⟩

theorem gone_of_disconnected (hx : x.Sound) (hdisc : x.channel.disconnected = true)
    (hnone : x.channel.response = none) : x.Gone where
  status_eq := (performs hx .status).failed_of_disconnected rfl hdisc hnone
  input_eq := (performs hx .input).failed_of_disconnected rfl hdisc hnone
  errorInput_eq := by
    have hu := performs hx .errorInput
    generalize (x.perform .errorInput).1 = o, (x.perform .errorInput).2 = y at hu
    cases hu with
    | asked _ hasks _ _ _ => cases hasks
    | errors _ hstream => exact hstream hnone

end Lives

/-- **The life of a channel.**  Over all uses in any order, and against any service: nothing is sent
before the response is asked for; the request that is answered carries what was applied until then;
after it, and after disconnecting, nothing is sent any more. -/
theorem lifetime (url : String) (proxyUrl : Option String) (service : Service) (log : List LogEvent)
    (us : List Use) : Lifetime (.start url proxyUrl service log) us := by
  have hstart : Tracks url [] (.start url proxyUrl service log) :=
    ⟨.inl rfl, rfl, rfl, by simp [Usage.start, Usage.channel], rfl⟩
  generalize Usage.start url proxyUrl service log = start at hstart ⊢
  have htracks := hstart.after us
  rw [List.nil_append] at htracks
  have hused : .disconnect ∈ us ↔ (start.after us).channel.disconnected = true := by
    rw [htracks.disconnected_iff, Usage.map_history]
  constructor
  · exact service_after_of_silent hstart.sound
  · exact unsent_of_none
  · intro u hasks hnone hused'
    rw [Usage.after_append]
    have hopen : (start.after us).channel.disconnected = false :=
      Bool.eq_false_iff.mpr fun h => hused' (hused.mpr h)
    have hexchange := (performs htracks.sound u).exchanges hasks hnone hopen
    rwa [htracks.url_eq, htracks.draft_eq, ← hstart.url_eq] at hexchange
  · intro u hnone hsome
    rw [Usage.after_append] at hsome
    obtain ⟨hasks, hopen, -⟩ := (performs htracks.sound u).answered hnone hsome
    refine ⟨hasks, fun hmem => ?_⟩
    rw [hused.mp hmem] at hopen
    cases hopen
  · intro response hresponse later
    rw [Usage.after_append]
    have hquiet : (start.after us).Quiet := .inl (by simp [hresponse])
    refine ⟨hquiet.service_after htracks.sound later, ?_⟩
    have hstatus := status_after htracks.sound (congrArg (Option.map Response.status) hresponse) later
    obtain ⟨kept, hkept, heq⟩ := Option.map_eq_some_iff.mp hstatus
    rw [← heq]
    exact settled_of_response (htracks.after later).sound hkept
  · intro hdisc later
    rw [Usage.after_append]
    rw [hused] at hdisc
    refine ⟨Usage.Quiet.service_after (.inr hdisc) htracks.sound later, fun hnone => ?_⟩
    have hlater := htracks.after later
    refine gone_of_disconnected hlater.sound ?_ (response_none_after htracks.sound hdisc hnone later)
    exact disconnected_after htracks.sound hdisc later
  · rw [htracks.closings_eq]
    by_cases hdisc : .disconnect ∈ us
    · rw [if_pos hdisc, if_pos (hused.mp hdisc)]
    · rw [if_neg hdisc, if_neg fun h => hdisc (hused.mpr h)]

/-- Credentials in the URL take the place of a header that was applied, the method is put in upper
case, and a length is added: the request does not carry exactly what was applied. -/
theorem sent_not_exact :
    let start := Usage.start "http://u:p@svc.local/x" none { script := [.answers {}] } []
    let us := [Use.setMethod "post", .setHeader "Authorization" "Bearer t"]
    let applied := drafted (start.history us)
    let reached := (start.after (us ++ [.status])).session.service.reached
    (start.after us).channel.response = none ∧
      (start.after (us ++ [.status])).channel.response ≠ none ∧
      (applied.method, applied.headers) = ("post", [("Authorization", "Bearer t")]) ∧
      reached.map (fun q => (q.method, q.headers)) =
        [("POST", [("Content-Length", "0"), ("Authorization", "Basic dTpw")])] ∧
      ¬ ∀ q ∈ reached, q.method = applied.method ∧ q.headers = applied.headers ∧
        q.body = applied.content := by
  decide +kernel

end ServiceClient.Wire
