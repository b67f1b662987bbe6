/-
**What a service fails with.**

A service is told by its script: what it answers to the first request, to the second one, and so on.
If its replies fail only as exchanges do, then so does sending a request, with two exceptions.  A
request whose URL has lost its scheme takes no response, whatever it is.  And a redirect may lead to
what is no URL.  Every other redirect keeps a scheme, so the first exception is one of the first
request only.

Main definitions:

* `ServiceClient.Wire.Service.Dependable`: services whose replies fail only as exchanges do;
* `ServiceClient.Wire.misled`: whether the redirects of a script lead a request to what is no URL;
* `ServiceClient.Wire.Service.Strays`: the two exceptions.

Main results:

* `ServiceClient.Wire.Reading.readAll_meets`, `ServiceClient.Wire.Reading.readAll_of_broken`: how
  reading a body fails, and when it does;
* `ServiceClient.Wire.Service.advance_ends`, `ServiceClient.Wire.Service.follow_ends`: one reply, and
  **all redirects along a script**;
* `ServiceClient.Wire.Service.send_ends`, `ServiceClient.Wire.Service.send_of_strays`: **what sending
  a request fails with**.
-/

import Mathlib.Data.List.TakeDrop
import ServiceClient.Proofs.Action.Meets
import ServiceClient.Proofs.Wire.Reached
import ServiceClient.Proofs.Wire.Reading

set_option autoImplicit false

namespace ServiceClient

open ServiceClient.Action (Ends Meets)

/-! ### Schemes -/

namespace Url

/-- A scheme of the protocol. -/
theorem scheme_cases {scheme : String} (h : Wire.schemes.contains scheme = true) :
    scheme = "http" ∨ scheme = "https" := by
  simpa [Wire.schemes] using h

/-- The scheme that a text begins with. -/
theorem splitScheme_append {scheme : String} (h : Wire.schemes.contains scheme = true)
    (rest : List Char) :
    splitScheme (scheme.toList ++ ':' :: rest) = (scheme.toList, rest) := by
  have hspan : ∀ cs : List Char, cs.all isSchemeChar = true →
      (cs ++ ':' :: rest).span isSchemeChar = (cs, ':' :: rest) := by
    intro cs hall
    have hcs := List.all_eq_true.mp hall
    have hcolon : isSchemeChar ':' = false := by decide
    rw [List.span_eq_takeWhile_dropWhile, List.takeWhile_append_of_pos hcs,
      List.dropWhile_append_of_pos hcs, List.takeWhile_cons_of_neg (by simp [hcolon]),
      List.dropWhile_cons_of_neg (by simp [hcolon]), List.append_nil]
  obtain rfl | rfl := scheme_cases h
  · rw [splitScheme, hspan _ (by decide)]
    rfl
  · rw [splitScheme, hspan _ (by decide)]
    rfl

/-- The URL of a text has the scheme that the text begins with. -/
theorem scheme_of_parse {scheme text : String} {rest : List Char} {u : Url}
    (h : Wire.schemes.contains scheme = true) (htext : text.toList = scheme.toList ++ ':' :: rest)
    (hu : parse? text = some u) : u.scheme = scheme := by
  have hlower : String.ofList (scheme.toList.map Char.toLower) = scheme := by
    obtain rfl | rfl := scheme_cases h <;> decide +kernel
  have hscheme : (split text.toList).scheme = scheme.toList := by
    simp only [split, htext, splitScheme_append h]
  simp only [parse?] at hu
  split at hu
  · cases hu
  · simp only [assemble?, hscheme, Option.bind_eq_bind, Option.bind_eq_some_iff] at hu
    obtain ⟨host, -, port, -, hu⟩ := hu
    split at hu
    · cases hu
      exact hlower
    · cases hu

/-- The text of a URL begins with its scheme, and keeps it. -/
theorem scheme_of_parse_render {u v : Url} (h : Wire.schemes.contains v.scheme = true)
    (hu : parse? v.render = some u) : u.scheme = v.scheme := by
  have hnamed : ¬ v.scheme.isEmpty = true := by
    obtain hv | hv := scheme_cases h <;> rw [hv] <;> decide
  have htext : ∃ rest, v.render.toList = v.scheme.toList ++ ':' :: rest := by
    rw [render, if_neg hnamed]
    simp only [String.toList_append, List.append_assoc]
    exact ⟨_, rfl⟩
  obtain ⟨rest, hrest⟩ := htext
  exact scheme_of_parse h hrest hu

/-- A reference that is resolved against a URL gets its scheme. -/
theorem scheme_of_join {base reference u : Url} (h : Wire.schemes.contains base.scheme = true)
    (hu : base.join? reference = some u) : u.scheme = base.scheme := by
  have hresolved : (resolve base reference).scheme = base.scheme := by
    unfold resolve
    split
    · rfl
    · split <;> rfl
  rw [join?] at hu
  split at hu
  · exact scheme_of_parse_render h hu
  · rw [← hresolved] at h ⊢
    generalize resolve base reference = v at h hu
    exact scheme_of_parse_render (v := { v with query := nonEmpty v.query, fragment := nonEmpty v.fragment })
      h hu

end Url

namespace Wire

variable {α : Type}

/-! ### Responses -/

/-- A response that fails only as exchanges do. -/
structure Response.Tame (r : Response) : Prop where
  read (f : Failure) : r.readFailure = some f → f.isExchangeFailure = true
  close (f : Failure) : r.closeFailure = some f → f.isExchangeFailure = true

/-- A response that nothing was read of. -/
def Response.Unread (r : Response) : Prop :=
  r.consumed = false ∧ r.closed = false

/-- Closing a response keeps the way it fails. -/
theorem Response.close_meets :
    Meets Tame close (fun _ => Tame) fun f r => f.isExchangeFailure = true ∧ r.Tame := by
  refine Meets.bind (Q := fun _ => Tame) (.gets fun _ h => h) fun closed => ?_
  cases closed with
  | true => exact .pure fun _ h => h
  | false =>
      refine Meets.bind (Q := fun _ => Tame) (.modify fun _ h => ⟨h.read, h.close⟩) fun _ => ?_
      refine .strike (fun _ h => h) fun g r f h hf => ?_
      have hexchange : (f.raisedDuring g).isExchangeFailure = true :=
        (Failure.isExchangeFailure_raisedDuring g f).trans (h.close f hf)
      exact ⟨hexchange, h.read, fun f' hf' => Option.some.inj hf' ▸ hexchange⟩

/-- Closing a response for the first time fails if it is to fail. -/
theorem Response.close_of_failure {f : Failure} :
    Meets (fun r => r.closed = false ∧ r.closeFailure = some f) close (fun _ _ => False)
      fun f' _ => f'.fault = f.fault := by
  rintro g r ⟨hclosed, hclose⟩
  simp only [close, Action.run_bind, Action.run_gets, Action.run_modify, Action.strike, hclosed,
    hclose, Bool.false_eq_true, if_false]
  exact .error (Failure.fault_raisedDuring ..)

/-! ### Readers -/

namespace Reading

/-- A reader of a tame response; if it has not begun, nothing was read before. -/
structure Sound (p : State) : Prop where
  tame : p.1.Tame
  unread : p.2.phase = .fresh → p.1.Unread

theorem begin_meets :
    Meets Sound begin (fun _ p => Sound p ∧ p.2.phase ≠ .fresh) fun _ _ => False := by
  rintro g ⟨r, k⟩ h
  by_cases hfresh : k.phase = .fresh
  · obtain ⟨hconsumed, hclosed⟩ : r.Unread := h.unread hfresh
    have hrun : begin g (r, k) =
        (.ok (), ({ r with consumed := true }, { k with phase := .running })) := by
      simp [begin, Action.run_bind, hfresh, hconsumed, hclosed]
    have hrunning : Phase.running ≠ .fresh := by decide
    rw [hrun]
    exact .ok ⟨⟨⟨h.tame.read, h.tame.close⟩, fun hk => absurd hk hrunning⟩, hrunning⟩
  · have hrun : begin g (r, k) = (.ok (), (r, k)) := by
      simp [begin, Action.run_bind, hfresh]
    rw [hrun]
    exact .ok ⟨h, hfresh⟩

theorem nextChunk_meets :
    Meets Sound nextChunk (fun _ => Sound) fun f p => f.isExchangeFailure = true ∧ Sound p := by
  refine (begin_meets.weaken (fun _ h => h) (fun _ _ h => h) fun _ _ => False.elim).bind fun _ => ?_
  refine Meets.bind (Q := fun q p => q = p ∧ Sound p ∧ p.2.phase ≠ .fresh)
    (.gets fun _ h => ⟨rfl, h⟩) ?_
  rintro ⟨r, k⟩
  simp only
  split
  · exact .pure fun _ h => h.2.1
  · split
    · refine Meets.bind (Q := fun _ => Sound) (.modify ?_) fun _ => .pure fun _ h => h
      rintro _ ⟨rfl, h, hbegun⟩
      exact ⟨⟨h.tame.read, h.tame.close⟩, fun hfresh => absurd hfresh hbegun⟩
    · -- at the end of the body the reader is over, whatever comes of the response
      refine Meets.bind (Q := fun _ p => p.2.phase = .over ∧ p.1.Tame ∧ r.Tame) (.modify ?_)
        fun _ => ?_
      · rintro _ ⟨rfl, h, -⟩
        exact ⟨rfl, ⟨h.tame.read, h.tame.close⟩, h.tame⟩
      · have hsound {p : State} (hp : p.2.phase = .over ∧ p.1.Tame) : Sound p :=
          ⟨hp.2, fun hfresh => by rw [hp.1] at hfresh; cases hfresh⟩
        cases hfailure : r.readFailure with
        | some f =>
            refine .raise fun g p hp => ⟨?_, hsound ⟨hp.1, hp.2.1⟩⟩
            exact (Failure.isExchangeFailure_raisedDuring g f).trans (hp.2.2.read f hfailure)
        | none =>
            have hclose : Meets (fun p : State => p.2.phase = .over ∧ p.1.Tame ∧ r.Tame)
                (Response.close.within .first) (fun _ => Sound)
                fun f p => f.isExchangeFailure = true ∧ Sound p :=
              (Response.close_meets.within (fun (p : State) _ (_ : p.2.phase = .over) => rfl)
                fun _ _ hp => hp).weaken (fun _ hp => ⟨hp.1, hp.2.1⟩) (fun _ _ => hsound)
                fun _ _ hp => ⟨hp.2.1, hsound ⟨hp.1, hp.2.2⟩⟩
            exact hclose.bind fun _ => .pure fun _ hp => hp

theorem go_meets (fuel : Nat) :
    Meets Sound (readAll.go fuel) (fun _ => Sound)
      fun f p => f.isExchangeFailure = true ∧ Sound p := by
  induction fuel with
  | zero => exact .pure fun _ h => h
  | succ fuel ih =>
      refine nextChunk_meets.bind fun chunk => ?_
      by_cases h : chunk.isEmpty
      · simp only [h, if_true]
        exact .pure fun _ h => h
      · simp only [h]
        exact ih.bind fun _ => .pure fun _ h => h

theorem readAll_meets :
    Meets Sound readAll (fun _ => Sound) fun f p => f.isExchangeFailure = true ∧ Sound p := by
  refine Meets.bind (Q := fun _ => Sound) (.gets fun _ h => h) ?_
  rintro ⟨r, k⟩
  refine Meets.bind (Q := fun _ => Sound) (.modify fun _ h => ⟨h.tame, h.unread⟩) fun _ => ?_
  exact (go_meets _).bind fun _ => .pure fun _ h => h

/-- A reader at the beginning or within its body, of a response that breaks off or cannot be
closed. -/
structure Broken (p : State) : Prop where
  phase : p.2.phase = .running ∨ p.2.phase = .fresh ∧ p.1.consumed = false
  unclosed : p.1.closed = false
  broken : p.1.readFailure ≠ none ∨ p.1.closeFailure ≠ none

/-- It brings chunks as long as there are some, and then it fails. -/
theorem nextChunk_of_broken (n : Nat) :
    Meets (fun p => Broken p ∧ p.1.chunks.length < n + 1) nextChunk
      (fun c p => c ≠ [] ∧ Broken p ∧ p.1.chunks.length < n) fun _ _ => True := by
  rintro g p ⟨h, hlength⟩
  obtain ⟨consumed, hbegin⟩ := begin_eq g h.phase h.unclosed
  rw [nextChunk, Action.run_bind_ok hbegin, Action.run_bind_ok (Action.run_gets ..)]
  simp only [id, reduceCtorEq, if_false]
  cases hsplit : splitChunk p.1.chunks with
  | some split =>
      obtain ⟨c, rest⟩ := split
      have hrest := (flatten_of_splitChunk_some hsplit).2
      refine .ok ⟨nextChunk_ok_nonempty hsplit, ⟨.inl rfl, h.unclosed, h.broken⟩, ?_⟩
      exact Nat.lt_of_lt_of_le hrest (Nat.le_of_lt_succ hlength)
  | none =>
      dsimp only
      rw [Action.run_bind_ok (Action.run_modify ..)]
      cases hread : p.1.readFailure with
      | some f => exact .error trivial
      | none =>
          obtain ⟨f, hclose⟩ :=
            Option.ne_none_iff_exists'.mp (h.broken.resolve_left fun hne => hne hread)
          have hcloses : Meets (fun p : State => p.1.closed = false ∧ p.1.closeFailure = some f)
              (do Response.close.within .first; pure ([] : Bytes)) (fun _ _ => False) fun _ _ => True :=
            ((Response.close_of_failure.within_all .first fun _ _ => rfl).weaken (fun _ h => h)
              (fun _ _ h => h) fun _ _ _ => trivial).bind fun _ _ _ => False.elim
          refine Ends.weaken (Q := fun _ _ => False) ?_ (fun _ _ => False.elim) fun _ _ h => h
          exact hcloses g _ ⟨h.unclosed, hclose⟩

/-- **A body that breaks off is not read to its end**, nor is one whose response cannot be closed
there. -/
theorem readAll_of_broken : Meets Broken readAll (fun _ _ => False) fun _ _ => True := by
  have hgo (fuel : Nat) : Meets (fun p => Broken p ∧ p.1.chunks.length < fuel) (readAll.go fuel)
      (fun _ _ => False) fun _ _ => True := by
    -- by induction on the fuel, which the chunks never use up
    induction fuel with
    | zero => exact fun _ _ h => absurd h.2 (Nat.not_lt_zero _)
    | succ fuel ih =>
        refine (nextChunk_of_broken fuel).bind fun c => .given fun hc => ?_
        rw [if_neg (by simpa using hc)]
        exact ih.bind fun _ => fun _ _ => False.elim
  refine Meets.bind (Q := fun q p => q = p ∧ Broken p) (.gets fun _ h => ⟨rfl, h⟩) ?_
  rintro ⟨r, k⟩
  refine Meets.bind (Q := fun _ p => Broken p ∧ p.1.chunks.length < r.chunks.length + 1)
    (.modify ?_) fun _ => (hgo _).bind fun _ => fun _ _ => False.elim
  rintro _ ⟨rfl, h⟩
  exact ⟨⟨h.phase, h.unclosed, h.broken⟩, Nat.lt_succ_self _⟩

variable (name : String)

/-- A new stream, over a sound reader. -/
structure Readable (x : Buffer × State) : Prop where
  held : x.1.released = false
  unclosed : x.2.2.closed = false
  sound : Sound x.2

/-- **Reading a body fails only as exchanges do.** -/
theorem buffered_readAll_meets :
    Meets Readable (source.buffered name).readAll (fun _ x => x.2.1.Tame)
      fun f x => f.isExchangeFailure = true ∧ x.2.1.Tame := by
  have hdemand : Meets Readable source.demandOpen (fun _ => Readable)
      fun f x => f.isExchangeFailure = true ∧ x.2.1.Tame := by
    refine Meets.bind (Q := fun closed x => closed = false ∧ Readable x) (.gets fun x h => ?_) ?_
    · exact ⟨by simp [source, h.held, h.unclosed], h⟩
    · rintro closed
      refine .given ?_
      rintro rfl
      exact .pure fun _ h => h
  have hread : Meets (fun x : Buffer × State => Sound x.2) (source.readAll.within .second)
      (fun _ x => x.2.1.Tame) fun f x => f.isExchangeFailure = true ∧ x.2.1.Tame :=
    readAll_meets.within_second.weaken (fun _ h => h) (fun _ _ h => h.tame)
      fun _ _ h => ⟨h.1, h.2.tame⟩
  refine hdemand.bind fun _ => ?_
  refine Meets.bind (Q := fun _ => Readable) (.gets fun _ h => h) fun held => ?_
  refine Meets.bind (Q := fun _ x => Sound x.2) (.modify fun _ h => h.sound) fun _ => ?_
  exact hread.bind fun _ => .pure fun _ h => h

/-- So does closing the stream. -/
theorem buffered_close_meets :
    Meets (fun x => x.2.1.Tame) (source.buffered name).close (fun _ x => x.2.1.Tame)
      fun f x => f.isExchangeFailure = true ∧ x.2.1.Tame := by
  have hclose : Meets (fun p : State => p.1.Tame) Reading.close (fun _ p => p.1.Tame)
      fun f p => f.isExchangeFailure = true ∧ p.1.Tame := by
    refine Meets.bind (Q := fun _ p => p.1.Tame) (.gets fun _ h => h) fun closed => ?_
    cases closed with
    | true => exact .pure fun _ h => h
    | false =>
        have hresponse : Meets (fun p : State => p.1.Tame) (Response.close.within .first)
            (fun _ p => p.1.Tame) fun f p => f.isExchangeFailure = true ∧ p.1.Tame :=
          Response.close_meets.within_all .first fun _ _ => rfl
        exact hresponse.ensure_all (fun _ => .modify fun _ h => h) (.modify fun _ h => h)
  refine Meets.bind (Q := fun _ x => x.2.1.Tame) (.gets fun _ h => h) fun closed => ?_
  cases closed with
  | true => exact .pure fun _ h => h
  | false =>
      exact hclose.within_second.ensure_all (fun _ => .modify fun _ h => h) (.modify fun _ h => h)

end Reading

/-! ### Redirects -/

namespace Request

variable {r next : Request} {response : Response}

theorem valid_error {u : Option Url} {f : Failure} (h : valid u = .error f) :
    f = .plain .invalidUrl := by
  cases u with
  | none => exact (Except.error.inj h).symm
  | some u => cases h

/-- What comes of the place of a redirect. -/
theorem redirectUrl_cases (r : Request) (place : String) :
    r.redirectUrl place = .error (.plain .remoteProtocol) ∨
      r.redirectUrl place = .error (.plain .invalidUrl) ∨
      ∃ u v, r.atUrl u = .ok v ∧ r.redirectUrl place = .ok (r.withFragment v) := by
  cases hparse : Url.parse? place with
  | none =>
      refine .inl ?_
      rw [redirectUrl, hparse]
      rfl
  | some u =>
      cases hhost : r.atHost u with
      | error f =>
          have hf : f = .plain .invalidUrl := by
            unfold atHost at hhost
            split at hhost
            · exact valid_error hhost
            · cases hhost
          subst hf
          refine .inr (.inl ?_)
          simp only [redirectUrl, hparse, hhost]
          rfl
      | ok u' =>
          cases hurl : r.atUrl u' with
          | error f =>
              have hf : f = .plain .invalidUrl := by
                unfold atUrl at hurl
                split at hurl
                · cases hurl
                · exact valid_error hurl
              subst hf
              refine .inr (.inl ?_)
              simp only [redirectUrl, hparse, hhost]
              exact congrArg (fun x => Except.map r.withFragment x) hurl
          | ok v =>
              refine .inr (.inr ⟨u', v, hurl, ?_⟩)
              simp only [redirectUrl, hparse, hhost]
              exact congrArg (fun x => Except.map r.withFragment x) hurl

/-- A redirect that cannot be followed breaks the protocol, or leads to what is no URL. -/
theorem redirect_error {f : Failure} (h : r.redirect response = .error f) :
    f = .plain .remoteProtocol ∨ f = .plain .invalidUrl := by
  simp only [redirect] at h
  obtain hurl | hurl | ⟨-, v, -, hurl⟩ := r.redirectUrl_cases ((response.header? "Location").getD "")
  · rw [hurl] at h
    exact .inl (Except.error.inj h).symm
  · rw [hurl] at h
    exact .inr (Except.error.inj h).symm
  · rw [hurl] at h
    cases h

theorem withFragment_scheme (r : Request) (u : Url) : (r.withFragment u).scheme = u.scheme := by
  unfold withFragment
  dsimp only
  split <;> rfl

/-- **A redirect leads to a URL with a scheme.** -/
theorem scheme_of_redirect (h : r.redirect response = .ok next)
    (hscheme : schemes.contains r.url.scheme = true) : next.url.scheme ≠ "" := by
  simp only [redirect] at h
  obtain hurl | hurl | ⟨u, v, hv, hurl⟩ :=
    r.redirectUrl_cases ((response.header? "Location").getD "")
  · rw [hurl] at h
    cases h
  · rw [hurl] at h
    cases h
  · rw [hurl] at h
    cases h
    rw [withFragment_scheme]
    unfold atUrl at hv
    split at hv
    · rename_i habsolute
      cases hv
      simp only [Url.isAbsolute, Bool.and_eq_true, Bool.not_eq_true', String.isEmpty_eq_false_iff]
        at habsolute
      exact habsolute.1
    · -- the place was resolved against the URL of the request, and has its scheme
      cases hjoin : r.url.join? u with
      | none =>
          rw [hjoin] at hv
          cases hv
      | some w =>
          rw [hjoin] at hv
          cases hv
          rw [Url.scheme_of_join hscheme hjoin]
          intro hempty
          rw [hempty] at hscheme
          exact absurd hscheme (by decide)

end Request

/-! ### Replies -/

namespace Reply

/-- A reply that fails only as exchanges do; a response comes unread. -/
inductive Tame : Reply → Prop
  | fails {f : Failure} : f.isExchangeFailure = true → Tame (.fails f)
  | answers {r : Response} : r.Tame → r.Unread → Tame (.answers r)

/-- Whether a reply sends the caller elsewhere. -/
def redirects : Reply → Bool
  | .fails _ => false
  | .answers r => r.isRedirect

end Reply

/-- A script that does not run out while one request is sent, of whose redirects `left` are followed:
there is a reply in it that is none, or it has more replies. -/
def Lasts (left : Nat) (script : List Reply) : Prop :=
  left < script.length ∨ ∃ reply ∈ script, reply.redirects = false

theorem Lasts.exists_cons {left : Nat} {script : List Reply} (h : Lasts left script) :
    ∃ reply rest, script = reply :: rest := by
  cases script with
  | nil =>
      obtain h | ⟨_, h, -⟩ := h
      · exact absurd h (Nat.not_lt_zero _)
      · cases h
  | cons reply rest => exact ⟨reply, rest, rfl⟩

theorem Lasts.tail {left : Nat} {reply : Reply} {rest : List Reply}
    (h : Lasts (left + 1) (reply :: rest)) (hreply : reply.redirects = true) : Lasts left rest := by
  obtain h | ⟨last, hmem, hlast⟩ := h
  · exact .inl (Nat.lt_of_succ_lt_succ h)
  · obtain rfl | hmem := List.mem_cons.mp hmem
    · rw [hreply] at hlast
      cases hlast
    · exact .inr ⟨last, hmem, hlast⟩

/-- A service whose replies fail only as exchanges do, and are enough for one request. -/
structure Service.Dependable (s : Service) : Prop where
  tame : ∀ reply ∈ s.script, reply.Tame
  lasting : Lasts Service.maxRedirects s.script

namespace Response

/-- Whether a response sends a request to what is no URL.  It is closed first, and that may fail as an
exchange does. -/
def misleads (response : Response) (r : Request) : Bool :=
  schemes.contains r.url.scheme && response.isRedirect && response.closeFailure.isNone &&
    match r.redirect response with
    | .error f => !f.isExchangeFailure
    | .ok _ => false

/-- The request that follows a response, which is read to its end and closed first. -/
def leads (response : Response) (r : Request) : Option Request :=
  if schemes.contains r.url.scheme && response.isRedirect && response.closeFailure.isNone &&
      response.readFailure.isNone then
    (r.redirect response).toOption
  else none

theorem misleads_of_foreign {response : Response} {r : Request}
    (h : schemes.contains r.url.scheme = false) : response.misleads r = false := by
  rw [misleads, h]
  rfl

theorem leads_of_foreign {response : Response} {r : Request}
    (h : schemes.contains r.url.scheme = false) : response.leads r = none := by
  rw [leads, h]
  rfl

end Response

/-- Whether the redirects of a script, of which `left` are followed, lead a request to what is no
URL. -/
def misled : Nat → Request → List Reply → Bool
  | 0, r, .answers response :: _ => response.misleads r
  | left + 1, r, .answers response :: rest =>
      response.misleads r || (response.leads r).any (misled left · rest)
  | _, _, _ => false

@[simp] theorem misled_fails (left : Nat) (r : Request) (f : Failure) (rest : List Reply) :
    misled left r (.fails f :: rest) = false := by
  cases left <;> rfl

theorem misled_answers (left : Nat) (r : Request) (response : Response) (rest : List Reply)
    (h : response.leads r = none) : misled left r (.answers response :: rest) = response.misleads r := by
  cases left with
  | zero => rfl
  | succ left => rw [misled, h, Option.any_none, Bool.or_false]

/-- A request that is for no service is not led anywhere. -/
theorem misled_of_foreign {r : Request} (h : schemes.contains r.url.scheme = false) (left : Nat)
    (script : List Reply) : misled left r script = false := by
  match script with
  | [] => cases left <;> rfl
  | .fails f :: rest => exact misled_fails ..
  | .answers response :: rest =>
      rw [misled_answers _ _ _ _ (Response.leads_of_foreign h)]
      exact Response.misleads_of_foreign h

namespace Service

variable {r : Request} {s : Service} {g : Option Failure}

/-! ### Leaving a redirect -/

section Leaving

variable {response : Response} (htame : response.Tame) (hunread : response.Unread)

include htame hunread

/-- A redirect that cannot be followed is closed, and fails with what keeps it from being followed
unless closing it fails. -/
theorem leaving_raise (f : Failure) :
    Ends (fun _ _ => False)
      (fun f' _ => if response.closeFailure.isNone then f'.fault = f.fault
        else f'.isExchangeFailure = true) (leaving response (.raise f) g s) := by
  rw [leaving, Action.run_rescue_error (Action.run_raise ..)]
  cases hclose : response.closeFailure with
  | none =>
      obtain ⟨r', -, hrun⟩ := Response.close_ok (r := response) (.inr hclose)
      have hwithin : (Response.close.within .first) (some (f.raisedDuring g))
          (response, ({} : Reading)) = (.ok (), (r', {})) := by
        simp only [Action.within, Part.first, hrun]
      rw [Action.run_bind_ok hwithin]
      exact .error (Failure.fault_raisedDuring ..)
  | some c =>
      have hfails := Response.close_of_failure.within_all (τ := Reading.State) .first
        (fun _ _ => rfl) (some (f.raisedDuring g)) (response, {}) ⟨hunread.2, hclose⟩
      rw [Action.run_bind]
      generalize (Response.close.within .first) (some (f.raisedDuring g))
        (response, ({} : Reading)) = x at hfails ⊢
      cases hfails with
      | ok h => exact h.elim
      | error h =>
          exact .error ((Failure.isExchangeFailure_congr h).trans (htame.close c hclose))

/-- What is done with the response of a redirect fails only as exchanges do, and so does closing the
response after that. -/
theorem leaving_ends {m : Action Reading.State Unit}
    (hm : Meets Reading.Sound m (fun _ => Reading.Sound)
      fun f p => f.isExchangeFailure = true ∧ Reading.Sound p) :
    Ends (fun _ s' => s' = s) (fun f s' => f.isExchangeFailure = true ∧ s' = s)
      (leaving response m g s) := by
  have hclosing : Meets Reading.Sound
      (m.rescue fun f => do
        Response.close.within .first
        .rethrow f)
      (fun _ _ => True) fun f _ => f.isExchangeFailure = true := by
    refine (hm.weaken (fun _ h => h) (fun _ _ _ => trivial) fun _ _ h => h).rescue fun f =>
      .given fun hf => ?_
    have hclose : Meets Reading.Sound (Response.close.within .first) (fun _ _ => True)
        fun f _ => f.isExchangeFailure = true :=
      (Response.close_meets.within_all .first fun _ _ => rfl).weaken (fun _ h => h.tame)
        (fun _ _ _ => trivial) fun _ _ h => h.1
    exact hclose.bind fun _ => .rethrow fun _ _ => hf
  have hend := hclosing g (response, {}) ⟨htame, fun _ => hunread⟩
  rw [leaving]
  generalize (m.rescue _) g (response, {}) = x at hend ⊢
  cases hend with
  | ok _ => exact .ok rfl
  | error hf => exact .error ⟨hf, rfl⟩

/-- **Reading the response of a redirect** succeeds if its body does not break off, and if the
response can be closed at its end. -/
theorem skip_ends :
    Ends (fun _ s' => s' = s ∧ response.readFailure = none ∧ response.closeFailure = none)
      (fun f s' => f.isExchangeFailure = true ∧ s' = s ∧
        ¬ (response.readFailure = none ∧ response.closeFailure = none)) (skip response g s) := by
  have hread : Meets Reading.Sound (do let _ ← Reading.readAll) (fun _ => Reading.Sound)
      fun f p => f.isExchangeFailure = true ∧ Reading.Sound p :=
    Reading.readAll_meets.bind fun _ => .pure fun _ h => h
  have hend := leaving_ends (s := s) (g := g) htame hunread hread
  by_cases hwhole : response.readFailure = none ∧ response.closeFailure = none
  · have hready : Reading.Ready (response, {}) :=
      ⟨.inr ⟨rfl, hunread.1⟩, hunread.2, hwhole.1, hwhole.2⟩
    obtain ⟨q, hrun, -⟩ := Reading.readAll_of_ready g hready
    have hskip : skip response g s = (.ok (), s) := by
      rw [skip, leaving, Action.run_rescue_ok (Action.run_bind_ok hrun)]
    rw [hskip]
    exact .ok ⟨rfl, hwhole⟩
  · have hbroken : Reading.Broken (response, {}) :=
      ⟨.inr ⟨rfl, hunread.1⟩, hunread.2, by simpa only [not_and_or] using hwhole⟩
    have hfails : Meets Reading.Broken
        ((do let _ ← Reading.readAll).rescue fun f => do
          Response.close.within .first
          .rethrow f)
        (fun _ _ => False) fun _ _ => True := by
      refine (Reading.readAll_of_broken.bind fun _ _ _ => False.elim).rescue fun f => ?_
      exact (Meets.trivial _).bind fun _ => .rethrow fun _ _ => trivial
    have hfailed := hfails g _ hbroken
    rw [leaving] at hend
    rw [skip, leaving]
    generalize (Action.rescue _ _) g (response, ({} : Reading)) = x at hend hfailed ⊢
    cases hfailed with
    | ok h => exact h.elim
    | error _ =>
        cases hend with
        | error h => exact .error ⟨h.1, h.2, hwhole⟩

end Leaving

/-! ### Following redirects -/

/-- What is said of a failure on the way of a request: what is no URL is the reason exactly if the
request was misled, and otherwise it is a failure of an exchange. -/
def Blames (astray : Bool) (f : Failure) : Prop :=
  if astray then f.fault = (Failure.plain .invalidUrl).fault else f.isExchangeFailure = true

theorem blames_false {f : Failure} : Blames false f ↔ f.isExchangeFailure = true := by
  simp [Blames]

/-- What is said of one reply: the request is answered, or sent on, and the script goes on. -/
inductive Advances (r : Request) (reply : Reply) (rest : List Reply) :
    Response × Option Request → Service → Prop
  | answered {response : Response} {s : Service} : response.Tame → response.Unread →
      (∀ left, misled left r (reply :: rest) = false) →
      Advances r reply rest (response, none) s
  | redirected {response : Response} {next : Request} {s : Service} : s.script = rest →
      reply.redirects = true → next.url.scheme ≠ "" →
      (∀ left, misled (left + 1) r (reply :: rest) = misled left next rest) →
      misled 0 r (reply :: rest) = false → Advances r reply rest (response, some next) s

section Answered

variable {response : Response} {rest : List Reply} (hcontains : schemes.contains r.url.scheme = true)
  (htame : response.Tame) (hunread : response.Unread)

include hcontains htame hunread

/-- A redirect that cannot be followed fails for the reason that there is. -/
theorem unfollowed_ends {f : Failure} (hredirect : response.isRedirect = true)
    (hnext : r.redirect response = .error f) :
    Ends (Advances r (.answers response) rest)
      (fun f _ => ∀ left, Blames (misled left r (.answers response :: rest)) f)
      ((do leaving response (.raise f); .raise f : Action Service (Response × Option Request)) g s) := by
  have hleads : response.leads r = none := by
    simp [Response.leads, hnext, Except.toOption]
  have hmisleads : response.misleads r =
      (response.closeFailure.isNone && !f.isExchangeFailure) := by
    rw [Response.misleads, hcontains, hredirect, hnext]
    rfl
  have hend := leaving_raise (g := g) (s := s) htame hunread f
  rw [Action.run_bind]
  generalize leaving response (.raise f) g s = x at hend ⊢
  cases hend with
  | ok h => exact h.elim
  | error h =>
      refine .error fun left => ?_
      rw [misled_answers _ _ _ _ hleads, hmisleads]
      cases hclose : response.closeFailure with
      | some c =>
          rw [hclose] at h
          exact blames_false.mpr h
      | none =>
          rw [hclose] at h
          obtain rfl | rfl := Request.redirect_error hnext
          · exact blames_false.mpr ((Failure.isExchangeFailure_congr h).trans rfl)
          · exact h

/-- A redirect that can be followed is read to its end first, and fails if it cannot be. -/
theorem followed_ends {next : Request} (hredirect : response.isRedirect = true)
    (hnext : r.redirect response = .ok next) (hscript : s.script = rest) :
    Ends (Advances r (.answers response) rest)
      (fun f _ => ∀ left, Blames (misled left r (.answers response :: rest)) f)
      ((do skip response; pure (response, some next) : Action Service (Response × Option Request))
        g s) := by
  have hmisleads : response.misleads r = false := by
    rw [Response.misleads, hnext, Bool.and_false]
  have hleads : response.leads r =
      if response.closeFailure.isNone && response.readFailure.isNone then some next else none := by
    rw [Response.leads, hcontains, hredirect, hnext]
    rfl
  have hend := skip_ends (g := g) (s := s) htame hunread
  rw [Action.run_bind]
  generalize skip response g s = x at hend ⊢
  cases hend with
  | ok h =>
      obtain ⟨rfl, hread, hclose⟩ := h
      rw [hread, hclose] at hleads
      refine .ok (.redirected hscript hredirect (Request.scheme_of_redirect hnext hcontains)
        (fun left => ?_) hmisleads)
      rw [misled, hmisleads, hleads]
      exact Bool.false_or _
  | error h =>
      obtain ⟨hf, rfl, hbroken⟩ := h
      rw [if_neg (by simpa [and_comm] using hbroken)] at hleads
      refine .error fun left => ?_
      rw [misled_answers _ _ _ _ hleads, hmisleads]
      exact blames_false.mpr hf

/-- A response ends the exchange, or sends the request on. -/
theorem answered_ends (hscript : s.script = rest) :
    Ends (Advances r (.answers response) rest)
      (fun f _ => ∀ left, Blames (misled left r (.answers response :: rest)) f)
      ((if response.isRedirect then
          match r.redirect response with
          | .error f => do
              leaving response (.raise f)
              .raise f
          | .ok next => do
              skip response
              pure (response, some next)
        else pure (response, none) : Action Service (Response × Option Request)) g s) := by
  cases hredirect : response.isRedirect with
  | false =>
      have hleads : response.leads r = none := by
        rw [Response.leads, hredirect, Bool.and_false]
        rfl
      refine .ok (.answered htame hunread fun left => ?_)
      rw [misled_answers _ _ _ _ hleads, Response.misleads, hredirect, Bool.and_false]
      rfl
  | true =>
      simp only [if_true]
      cases hnext : r.redirect response with
      | error f => exact unfollowed_ends hcontains htame hunread hredirect hnext
      | ok next => exact followed_ends hcontains htame hunread hredirect hnext hscript

end Answered

/-- **One reply**: the request is answered, or sent on to a URL with a scheme, or it fails for the
reason that there is. -/
theorem advance_ends {reply : Reply} {rest : List Reply} (hscript : s.script = reply :: rest)
    (htame : reply.Tame) (hscheme : r.url.scheme ≠ "") :
    Ends (Advances r reply rest) (fun f _ => ∀ left, Blames (misled left r (reply :: rest)) f)
      (advance r g s) := by
  cases htakes : takes r with
  | false =>
      have hforeign : schemes.contains r.url.scheme = false := by
        rw [takes, Bool.or_eq_false_iff] at htakes
        exact htakes.2
      rw [advance, Action.run_bind_error (transmit_untaken htakes g s)]
      refine .error fun left => ?_
      rw [misled_of_foreign hforeign, blames_false, Failure.isExchangeFailure_raisedDuring]
      rfl
  | true =>
      have hcontains : schemes.contains r.url.scheme = true := by
        have hempty : r.url.scheme.isEmpty = false := by simpa using hscheme
        rwa [takes, hempty, Bool.false_or] at htakes
      have htransmit := transmit_eq htakes g s
      rw [hscript] at htransmit
      cases htame with
      | @fails f hf =>
          rw [advance, Action.run_bind_error htransmit]
          refine .error fun left => ?_
          rw [misled_fails, blames_false, Failure.isExchangeFailure_raisedDuring]
          exact hf
      | @answers response hresponse hunread =>
          rw [answer_of_scheme hcontains] at htransmit
          rw [advance, Action.run_bind_ok htransmit]
          have hend := @answered_ends r { s with script := rest, reached := s.reached ++ [r] } g
            { response with method := r.method } rest hcontains
            ⟨hresponse.read, hresponse.close⟩ hunread rfl
          -- the method that is noted in a response does not matter to its redirect
          have hsame (left : Nat) :
              misled left r (.answers { response with method := r.method } :: rest) =
                misled left r (.answers response :: rest) := by
            cases left <;> rfl
          refine hend.weaken ?_ fun f _ h left => hsame left ▸ h left
          rintro _ _ (⟨htame, hunread, hplain⟩ | ⟨hrest, hredirects, hnext, hlater, hlast⟩)
          · exact .answered htame hunread fun left => (hsame left).symm.trans (hplain left)
          · exact .redirected hrest hredirects hnext
              (fun left => (hsame _).symm.trans (hlater left)) ((hsame 0).symm.trans hlast)

theorem follow_of_error {left : Nat} {f : Failure} {s' : Service}
    (h : advance r g s = (.error f, s')) : follow left r g s = (.error f, s') := by
  cases left <;> exact Action.run_bind_error h

/-- **All redirects along a script**: a request fails with what is no URL exactly if it is misled, and
otherwise as exchanges do. -/
theorem follow_ends {left : Nat} (hscheme : r.url.scheme ≠ "")
    (htame : ∀ reply ∈ s.script, reply.Tame) (hlasts : Lasts left s.script) :
    Ends (fun response _ => misled left r s.script = false ∧ response.Tame ∧ response.Unread)
      (fun f _ => Blames (misled left r s.script) f) (follow left r g s) := by
  -- by induction on the redirects that are left, each of which takes one reply off the script
  induction left generalizing r s with
  | zero =>
      obtain ⟨reply, rest, hscript⟩ := hlasts.exists_cons
      rw [hscript] at htame ⊢
      have hend := advance_ends (g := g) hscript (htame _ (.head _)) hscheme
      rw [follow, Action.run_bind]
      generalize advance r g s = x at hend ⊢
      cases hend with
      | error h => exact .error (h 0)
      | ok h =>
          cases h with
          | answered hresponse hunread hplain => exact .ok ⟨hplain 0, hresponse, hunread⟩
          | redirected _ _ _ _ hlast =>
              refine .error ?_
              rw [hlast, blames_false, Failure.isExchangeFailure_raisedDuring]
              rfl
  | succ left ih =>
      obtain ⟨reply, rest, hscript⟩ := hlasts.exists_cons
      rw [hscript] at htame hlasts ⊢
      have hend := advance_ends (g := g) hscript (htame _ (.head _)) hscheme
      rw [follow, Action.run_bind]
      generalize advance r g s = x at hend ⊢
      cases hend with
      | error h => exact .error (h _)
      | ok h =>
          cases h with
          | answered hresponse hunread hplain => exact .ok ⟨hplain _, hresponse, hunread⟩
          | redirected hrest hredirects hnext hlater _ =>
              rw [hlater]
              subst hrest
              exact ih hnext (fun reply hreply => htame _ (.tail _ hreply)) (hlasts.tail hredirects)

/-! ### Sending -/

/-- The two ways in which sending a request fails as no exchange does: its URL has lost its scheme,
and there is a response; or redirects lead it to what is no URL. -/
def Strays (r : Request) (s : Service) : Prop :=
  (r.url.scheme = "" ∧ ∃ response rest, s.script = .answers response :: rest) ∨
    misled maxRedirects r.authorized s.script = true

theorem send_eq (r : Request) (g : Option Failure) (s : Service) :
    send r g s =
      follow maxRedirects r.authorized g { s with handed := s.handed ++ [r] } := by
  rw [send, Action.run_bind_ok (Action.run_modify ..)]

/-- A request whose URL has lost its scheme gets no response. -/
theorem send_of_schemeless (h : s.Dependable) (hscheme : r.url.scheme = "") :
    ∃ reply rest, s.script = reply :: rest ∧ ∃ f s', send r g s = (.error (f.raisedDuring g), s') ∧
      (reply = .fails f ∨ f = .plain .value ∧ ∃ response, reply = .answers response) := by
  obtain ⟨reply, rest, hscript⟩ := h.lasting.exists_cons
  refine ⟨reply, rest, hscript, ?_⟩
  have hempty : r.authorized.url.scheme.isEmpty = true := by
    rw [Request.authorized_url, hscheme]
    rfl
  let s₁ : Service := { s with handed := s.handed ++ [r] }
  have htransmit := transmit_eq (r := r.authorized) (by rw [takes, hempty, Bool.true_or]) g s₁
  rw [send_eq]
  cases reply with
  | fails f =>
      rw [show s₁.script = _ from hscript] at htransmit
      exact ⟨f, _, follow_of_error (Action.run_bind_error htransmit), .inl rfl⟩
  | answers response =>
      rw [show s₁.script = _ from hscript, answer, if_pos hempty] at htransmit
      exact ⟨.plain .value, _, follow_of_error (Action.run_bind_error htransmit),
        .inr ⟨rfl, response, rfl⟩⟩

/-- **What sending a request fails with**, unless it strays: what exchanges fail with. -/
theorem send_ends (h : s.Dependable) (hstays : ¬ Strays r s) :
    Ends (fun response _ => response.Tame ∧ response.Unread)
      (fun f _ => f.isExchangeFailure = true) (send r g s) := by
  by_cases hscheme : r.url.scheme = ""
  · obtain ⟨reply, rest, hscript, f, s', hsend, rfl | ⟨-, response, rfl⟩⟩ :=
      send_of_schemeless (g := g) h hscheme
    · rw [hsend]
      refine .error ?_
      have htame := h.tame (.fails f) (by rw [hscript]; exact .head _)
      cases htame with
      | fails hf => exact (Failure.isExchangeFailure_raisedDuring g f).trans hf
    · exact absurd (.inl ⟨hscheme, response, rest, hscript⟩) hstays
  · have hplain : misled maxRedirects r.authorized s.script = false :=
      Bool.eq_false_iff.mpr fun hmisled => hstays (.inr hmisled)
    have hend := follow_ends (g := g) (r := r.authorized)
      (s := { s with handed := s.handed ++ [r] }) (by rwa [Request.authorized_url]) h.tame h.lasting
    rw [send_eq]
    exact hend.weaken (fun _ _ h => h.2) fun f _ hf => blames_false.mp (hplain ▸ hf)

/-- **What sending a request fails with that strays.** -/
theorem send_of_strays (h : s.Dependable) (hstrays : Strays r s) :
    ∃ f s', send r g s = (.error f, s') ∧
      (f.fault = (Failure.plain .value).fault ∨ f.fault = (Failure.plain .invalidUrl).fault) := by
  obtain ⟨hscheme, response, rest, hscript⟩ | hmisled := hstrays
  · obtain ⟨reply, rest', hscript', f, s', hsend, rfl | ⟨rfl, -⟩⟩ :=
      send_of_schemeless (g := g) h hscheme
    · rw [hscript] at hscript'
      cases hscript'
    · exact ⟨_, s', hsend, .inl (Failure.fault_raisedDuring ..)⟩
  · have hnamed : r.url.scheme ≠ "" := by
      intro hempty
      have hforeign : schemes.contains r.authorized.url.scheme = false := by
        rw [Request.authorized_url, hempty]
        decide
      rw [misled_of_foreign hforeign] at hmisled
      cases hmisled
    have hend := follow_ends (g := g) (r := r.authorized)
      (s := { s with handed := s.handed ++ [r] }) (by rwa [Request.authorized_url]) h.tame h.lasting
    rw [send_eq]
    generalize follow maxRedirects r.authorized g _ = x at hend ⊢
    cases hend with
    | ok h =>
        rw [hmisled] at h
        exact absurd h.1 (by decide)
    | @error f s' hf =>
        rw [hmisled] at hf
        exact ⟨f, s', rfl, .inr hf⟩

end Service

end Wire

end ServiceClient
