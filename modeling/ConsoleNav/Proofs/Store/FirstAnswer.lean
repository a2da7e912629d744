import ConsoleNav.Proofs.Address.Extending
import ConsoleNav.Proofs.Address.Places
import ConsoleNav.Proofs.Store.Attempts

/-!
The budget of a remote source: how many requests are made, where they go and how long the pauses between
them take. The first answer decides, as long as the retries are not used up before it.
-/
namespace ConsoleNav.Store

/-! ### How long the pauses take -/

/-- The time that the first `count` pauses take. -/
def totalPause (count : Nat) : Nat :=
  if count ≤ 7 then 200 * (Nat.pow 2 count - 1) else 25400 + 12800 * (count - 7)

theorem pauses_eq_totalPause (count : Nat) : pauses 0 count = totalPause count := by
  by_cases hdoubling : count ≤ 7
  · rw [totalPause, if_pos hdoubling]
    revert count
    decide
  · obtain ⟨more, rfl⟩ := Nat.exists_eq_add_of_lt (Nat.lt_of_not_le hdoubling)
    rw [totalPause, if_neg hdoubling]
    clear hdoubling
    induction more with
    | zero => decide
    | succ more ih =>
      rw [← Nat.add_assoc, pauses_succ, ih, backoff_of_le (by omega)]
      omega

theorem Remote.millis_flatMap_failedActs (r : Remote) (count : Nat) :
    (((List.range count).flatMap r.failedActs).map Act.millis).sum = totalPause count := by
  rw [← pauses_eq_totalPause]
  induction count with
  | zero => rfl
  | succ count ih =>
    rw [List.range_succ, List.flatMap_append, List.flatMap_singleton, List.map_append, List.sum_append,
      ih, Remote.millis_failedActs, pauses_succ, Nat.zero_add]

theorem Remote.waited_acts (r : Remote) (count : Nat) (outcome : Except FetchFault (List Menu.Entry))
    (rest : List Response) :
    Log.waited ⟨(List.range count).flatMap r.failedActs ++ r.acts, outcome, rest⟩ =
      totalPause count := by
  have hlast : (r.acts.map Act.millis).sum = 0 := by
    unfold Remote.acts
    cases r.address <;> rfl
  rw [Log.waited, List.map_append, List.sum_append, Remote.millis_flatMap_failedActs, hlast, Nat.add_zero]

/-! ### Where requests go -/

/-- Requests are made at the place of the address of a source. Only an address that ends in blanks may be
none any more with the path after it. -/
theorem Remote.exists_address [client : Address.Client] (hreads : client.ReadsPlaces) {url : String}
    {b : Address} (hread : client.read? url = some b) (hweb : b.isWeb)
    (hend : ∀ c ∈ url.toList.getLast?, 0x20 < c.toNat) (retries : Nat) :
    ∃ a, client.read? ((Remote.ofAddress url retries).base ++ "/menus") = some a ∧ a.SamePlace b ∧
      (Remote.ofAddress url retries).address =
        if a.withoutUser.isSendable then .ok a.withoutUser else .error (.unusable a.withoutUser) := by
  obtain ⟨slashes, hurl, hslashes⟩ := Text.exists_stripEnd (· == '/') url.toList
  have htext : (Remote.ofAddress url retries).base ++ "/menus" =
      String.ofList (Text.stripEnd (· == '/') url.toList ++ "/menus".toList) := by
    rw [String.ofList_append, String.ofList_toList]
    rfl
  generalize Text.stripEnd (· == '/') url.toList = base at hurl htext
  rw [← String.ofList_toList (s := url), hurl] at hread
  rw [hurl] at hend
  have hlast : ∀ c ∈ "/menus".toList.getLast?, 0x20 < c.toNat := by
    intro c hc
    cases hc
    decide
  have hkept : ∀ c ∈ "/menus".toList, Address.isIgnored c = false := by
    intro c hc
    have hall : "/menus".toList.all (!Address.isIgnored ·) = true := rfl
    simpa using List.all_eq_true.mp hall c hc
  obtain ⟨a, ha, hplace⟩ := hreads.exists_read?_append hread hweb
    (fun c hc => eq_of_beq (hslashes c hc)) hend rfl hlast hkept
  have haweb : a.withoutUser.isWeb = true := by
    rw [Address.isWeb_withoutUser, hplace.isWeb_eq, hweb]
  have hread' : (Remote.ofAddress url retries).client.read?
      ((Remote.ofAddress url retries).base ++ "/menus") = some a := by
    rw [htext]
    exact ha
  refine ⟨a, hread', hplace, ?_⟩
  rw [Remote.address, hread']
  dsimp only
  rw [haweb, Bool.true_and]

/-! ### The budget -/

/-- Attempts that are all requests to one address: `failed` ones with a pause after each, and a last one. -/
structure Log.Made (log : Log) (a : Address) (failed : Nat) : Prop where
  acts : log.acts = (List.range failed).flatMap (fun i => [.get a, .pause (backoff i)]) ++ [.get a]
  requests : log.requests = List.replicate (failed + 1) a
  waited : log.waited = totalPause failed

section Budget

variable {r : Remote} {a : Address} {retries : UInt32} {responses : List Response} {log : Log}

theorem Remote.made_acts (haddress : r.address = .ok a) (failed : Nat)
    (outcome : Except FetchFault (List Menu.Entry)) (rest : List Response) :
    Log.Made ⟨(List.range failed).flatMap r.failedActs ++ r.acts, outcome, rest⟩ a failed := by
  have hacts : r.acts = [.get a] := by rw [Remote.acts, haddress]
  have hfailed : r.failedActs = fun i => [.get a, .pause (backoff i)] := by
    funext i
    rw [Remote.failedActs, hacts]
    rfl
  have hrequests : ((List.range failed).flatMap r.failedActs).filterMap Act.request? =
      List.replicate failed a := by
    rw [hfailed]
    induction failed with
    | zero => rfl
    | succ failed ih =>
      rw [List.range_succ, List.flatMap_append, List.filterMap_append, ih, List.replicate_succ']
      rfl
  refine ⟨by rw [hfailed, hacts], ?_, r.waited_acts failed outcome rest⟩
  rw [Log.requests, List.filterMap_append, hrequests, hacts, List.replicate_succ']
  rfl

/-- All responses before the first answer are lost. -/
theorem isLost_of_mem_take {count : Nat} (h : count ≤ responses.findIdx (!·.isLost)) :
    ∀ x ∈ responses.take count, x.isLost := by
  intro x hx
  obtain ⟨i, hi, rfl⟩ := List.mem_take_iff_getElem.mp hx
  have hbefore : i < responses.findIdx (!·.isLost) := by omega
  simpa using List.not_of_lt_findIdx hbefore

theorem Remote.isDownFor_of_findIdx {attempts first : Nat}
    (hfirst : responses.findIdx (!·.isLost) = first)
    (hattempts : responses[first]? = none ∨ attempts ≤ first) : r.IsDownFor attempts responses := by
  intro _ _ x hx
  obtain hnone | hle := hattempts
  · have hlength := List.getElem?_eq_none_iff.mp hnone
    refine isLost_of_mem_take (hlength.trans_eq hfirst.symm) x ?_
    rw [List.take_length]
    exact List.mem_of_mem_take hx
  · exact isLost_of_mem_take (by rwa [hfirst]) x hx

/-- An answer that comes before the retries are used up decides. -/
theorem Log.answered_within_budget (haddress : r.address = .ok a)
    (hlog : r.attemptFrom? retries 0 responses = some log) {first status : Nat} {body : String}
    (hfirst : responses.findIdx (!·.isLost) = first)
    (hanswer : responses[first]? = some (.answered status body)) (hbudget : first ≤ retries.toNat) :
    log.Made a first ∧
      log.outcome = (if status = 200 then
          match Json.Wire.decode body with
          | .ok menu => .ok menu
          | .error _ => .error (.undecodable "error decoding response body")
        else .error (.status status (bodyText status body))) ∧
      log.responses = responses.drop (first + 1) := by
  obtain ⟨hlt, hget⟩ := List.getElem?_eq_some_iff.mp hanswer
  have hlost : ∀ x ∈ responses.take first, x.isLost := isLost_of_mem_take (Nat.le_of_eq hfirst.symm)
  have hfinal : isFinalStatus status = true := by
    subst hfirst
    have hkept := List.findIdx_getElem (w := hlt)
    rw [hget] at hkept
    simpa [Response.isLost] using hkept
  have hacts : r.acts = [.get a] := by rw [Remote.acts, haddress]
  have hlength : (responses.take first).length = first := List.length_take_of_le (Nat.le_of_lt hlt)
  have hsplit : responses.take first ++ .answered status body :: responses.drop (first + 1) =
      responses := by
    rw [← hget, ← List.drop_eq_getElem_cons, List.take_append_drop]
  have hanswered : r.attemptFrom? retries 0 _ = _ := Remote.attemptFrom?_answer haddress hlost
    (by rwa [hlength]) (x := .answered status body) (by simp [Response.isLost, hfinal])
    (responses.drop (first + 1))
  rw [hsplit, hlength, hlog, ← hacts] at hanswered
  cases hanswered
  refine ⟨Remote.made_acts haddress _ _ _, ?_, rfl⟩
  rw [Response.read, hfinal]
  rfl

/-- Without an answer, there are as many retries as there may be. -/
theorem Log.lost_beyond_budget (haddress : r.address = .ok a)
    (hlog : r.attemptFrom? retries 0 responses = some log) {first : Nat}
    (hfirst : responses.findIdx (!·.isLost) = first)
    (hlost : responses[first]? = none ∨ retries.toNat < first) :
    log.Made a retries.toNat ∧ log.outcome = .error (unanswered a) ∧
      log.responses = responses.drop (retries.toNat + 1) := by
  have hdown : r.IsDownFor (retries.toNat + 1) responses :=
    Remote.isDownFor_of_findIdx hfirst hlost
  have hfault : r.fault = unanswered a := by rw [Remote.fault, haddress]
  have heach : r.requestsEach = 1 := by rw [Remote.requestsEach, haddress]
  have hall := hdown.attemptFrom?_eq
  rw [hlog, hfault, heach, Nat.mul_one] at hall
  cases hall
  exact ⟨Remote.made_acts haddress _ _ _, rfl, rfl⟩

/-- Where there can be no requests, there are pauses only. -/
theorem Log.pauses_only {fault : AddressFault} (haddress : r.address = .error fault)
    (hlog : r.attemptFrom? retries 0 responses = some log) :
    log.acts = (List.range retries.toNat).map (fun i => .pause (backoff i)) ∧ log.requests = [] ∧
      log.waited = totalPause retries.toNat ∧ log.outcome = .error (.unreachable fault.message) ∧
      log.responses = responses := by
  have hdown : r.IsDownFor (retries.toNat + 1) responses := by
    intro a ha
    rw [haddress] at ha
    cases ha
  have hfault : r.fault = .unreachable fault.message := by rw [Remote.fault, haddress]
  have heach : r.requestsEach = 0 := by rw [Remote.requestsEach, haddress]
  have hacts : r.acts = [] := by rw [Remote.acts, haddress]
  have hpauses : (List.range retries.toNat).flatMap r.failedActs ++ r.acts =
      (List.range retries.toNat).map fun i => .pause (backoff i) := by
    rw [hacts, List.append_nil, List.map_eq_flatMap]
    unfold Remote.failedActs
    rw [hacts]
    rfl
  have hwaited := r.waited_acts retries.toNat (.error (.unreachable fault.message)) responses
  have hall := hdown.attemptFrom?_eq
  rw [hlog, hfault, heach, Nat.mul_zero, List.drop_zero] at hall
  cases hall
  refine ⟨hpauses, ?_, hwaited, rfl, rfl⟩
  rw [Log.requests, hpauses, List.filterMap_map, List.filterMap_eq_nil_iff]
  exact fun _ _ => rfl

/-- Getting a menu from a remote source. Each attempt is a request to the address of the source with the
path after it; the first answer is final if it comes before the retries are used up, and without one there
are as many retries as there may be. The attempts and the powers in the pauses are counted in 32 bits,
which are always enough. -/
theorem Remote.attempts_within_budget [client : Address.Client] (url : String) (retries : UInt32)
    (responses : List Response) :
    let r := Remote.ofAddress url retries.toNat
    let first := responses.findIdx (!·.isLost)
    ∃ log, r.attemptFrom? retries 0 responses = some log ∧ r.ask none responses = log.report 0 0 ∧
      (client.ReadsPlaces →
        ∀ b, client.read? url = some b → b.isWeb → (∀ c ∈ url.toList.getLast?, 0x20 < c.toNat) →
          ∃ a, client.read? (r.base ++ "/menus") = some a ∧ a.SamePlace b ∧
            r.address =
              if a.withoutUser.isSendable then .ok a.withoutUser
              else .error (.unusable a.withoutUser)) ∧
      (∀ a, r.address = .ok a →
        (∀ status body, responses[first]? = some (.answered status body) → first ≤ retries.toNat →
          log.Made a first ∧
          log.outcome = (if status = 200 then
              match Json.Wire.decode body with
              | .ok menu => .ok menu
              | .error _ => .error (.undecodable "error decoding response body")
            else .error (.status status (bodyText status body))) ∧
          log.responses = responses.drop (first + 1)) ∧
        (responses[first]? = none ∨ retries.toNat < first →
          log.Made a retries.toNat ∧ log.outcome = .error (unanswered a) ∧
          log.responses = responses.drop (retries.toNat + 1))) ∧
      ∀ fault, r.address = .error fault →
        log.acts = (List.range retries.toNat).map (fun i => .pause (backoff i)) ∧ log.requests = [] ∧
        log.waited = totalPause retries.toNat ∧ log.outcome = .error (.unreachable fault.message) ∧
        log.responses = responses := by
  intro r first
  obtain ⟨log, hlog, hask⟩ := r.exists_attemptFrom? 0 (Nat.zero_add retries.toNat) responses
  refine ⟨log, hlog, hask 0 0, ?_, fun a haddress => ⟨?_, ?_⟩, fun fault haddress => ?_⟩
  · exact fun hreads b hread hweb hend => Remote.exists_address hreads hread hweb hend retries.toNat
  · exact fun status body hanswer hbudget =>
      Log.answered_within_budget haddress hlog rfl hanswer hbudget
  · exact fun hlost => Log.lost_beyond_budget haddress hlog rfl hlost
  · exact Log.pauses_only haddress hlog

end Budget

section Loopback

/-- Where a source on the same machine is asked for its menu. -/
def loopbackMenus : Address where
  scheme := "http"
  host := some (.v6 [0, 0, 0, 0, 0, 0, 0, 1])
  port := some 9
  path := "/menus"

theorem address_loopbackMenus (retries : Nat) :
    (Remote.ofAddress "http://[::1]:9/" retries).address = .ok loopbackMenus := by
  have hread : Address.read? ((Remote.ofAddress "http://[::1]:9/" 0).base ++ "/menus") =
      some loopbackMenus := by decide +kernel
  change (Remote.ofAddress "http://[::1]:9/" retries).client.read?
    ((Remote.ofAddress "http://[::1]:9/" retries).base ++ "/menus") = _ at hread
  rw [Remote.address, hread]
  exact if_pos (by decide)

/-- A source that drops the first request and then gives out an empty menu. -/
theorem Remote.attempts_within_budget_dropped :
    let r := Remote.ofAddress "http://[::1]:9/" 1
    (∃ a, Address.read? (r.base ++ "/menus") = some a ∧
      a.SamePlace { loopbackMenus with path := "/" }) ∧
    ∃ log, r.attemptFrom? 1 0 [.dropped, .answered 200 "[]"] = some log ∧
      log.acts = [.get loopbackMenus, .pause 200, .get loopbackMenus] ∧ log.outcome = .ok [] := by
  intro r
  obtain ⟨log, hlog, -, hplace, hanswered, -⟩ :=
    Remote.attempts_within_budget "http://[::1]:9/" 1 [.dropped, .answered 200 "[]"]
  have hend : ∀ c ∈ "http://[::1]:9/".toList.getLast?, 0x20 < c.toNat := by
    intro c hc
    cases hc
    decide
  obtain ⟨a, ha, hsame, -⟩ :=
    hplace Address.ownClient_readsPlaces { loopbackMenus with path := "/" } (by decide +kernel)
      (by decide) hend
  obtain ⟨hmade, houtcome, -⟩ :=
    (hanswered loopbackMenus (address_loopbackMenus 1)).1 200 "[]" rfl (by decide)
  exact ⟨⟨a, ha, hsame⟩, log, hlog, hmade.acts, houtcome⟩

/-- Not every address of the web is one still with the path after it; some statuses only announce an
answer; and some answers are read without what they carry. -/
theorem Remote.ask_exceptions :
    (Address.read? "http://[::1]:9 " = some { loopbackMenus with path := "/" } ∧
      ((Remote.ofAddress "http://[::1]:9 " 0).ask none [.answered 200 "[]"]).requests = 0) ∧
    (Remote.ofAddress "http://[::1]:9/" 1).ask none [.answered 100 "", .answered 200 "[]"] =
      ⟨2, 200, some (.ok []), []⟩ ∧
    (Remote.ofAddress "http://[::1]:9/" 0).ask none [.answered 304 "[]"] =
      ⟨1, 0, some (.error (.status 304 "")), []⟩ ∧
    (Remote.ofAddress "http://[::1]:9/" 0).ask none [.answered 500 "\uFEFFx"] =
      ⟨1, 0, some (.error (.status 500 "x")), []⟩ := by
  have hannounced : ∀ x ∈ [Response.answered 100 ""], x.isLost := by decide
  have hnone : ∀ x ∈ ([] : List Response), x.isLost := by decide
  refine ⟨⟨by decide +kernel, by decide +kernel⟩, ?_, ?_, ?_⟩
  · exact Remote.ask_eq (address_loopbackMenus 1) hannounced (by decide) rfl rfl []
  · exact Remote.ask_eq (address_loopbackMenus 0) hnone (by decide) rfl rfl []
  · exact Remote.ask_eq (address_loopbackMenus 0) hnone (by decide) rfl rfl []

end Loopback

end ConsoleNav.Store
