import SpotqPayment.Infrastructure.RestaurantService
import SpotqPayment.Library.Run

/-! The service tokens of the restaurant client over all its calls. A token is used
while it lasts and replaced by a new one after that. -/
namespace SpotqPayment

namespace RestaurantServiceClient

/-- A call of `getRestaurants`. -/
structure Call where
  contact : Contact
  restaurantIds : Option (List String)

def call (client : RestaurantServiceClient) (input : Call) : Batch :=
  client.getRestaurants input.contact input.restaurantIds

/-- The client as it is constructed. -/
def started (tokenTtlMs : Nat) : RestaurantServiceClient := { tokenTtlMs, cachedToken := none }

def after (client : RestaurantServiceClient) (calls : List Call) : RestaurantServiceClient :=
  Transition.run (fun client input => (client.call input).client) client calls

/-- The times at which calls put another token into the cache. -/
def renewals (client : RestaurantServiceClient) : List Call → List Instant
  | [] => []
  | input :: calls =>
      let next := (client.call input).client
      if next = client then next.renewals calls else input.contact.now :: next.renewals calls

variable {client : RestaurantServiceClient} {input : Call} {calls : List Call}

/-- What a call does with the token: it uses the one that is kept, which still lasts, or
keeps a new one because there was none or its time had come. -/
inductive Uses (client : RestaurantServiceClient) (input : Call) (batch : Batch) : Prop where
  | none (hRequest : batch.request = Option.none) (hClient : batch.client = client)
  | kept (cached : CachedToken) (hCached : client.cachedToken = some cached)
      (hLasts : input.contact.now < cached.expiresAt) (hToken : ∀ request ∈ batch.request, request.token = cached.token)
      (hClient : batch.client = client)
  | renewed (token : String) (hGenerated : input.contact.generated = some token)
      (hOver : ∀ cached ∈ client.cachedToken, cached.expiresAt ≤ input.contact.now)
      (hToken : ∀ request ∈ batch.request, request.token = token)
      (hClient : batch.client = { client with
        cachedToken := some { token, expiresAt := input.contact.now + client.tokenTtlMs } })

theorem uses_fetchBatch (ids : List String) : client.Uses input (client.fetchBatch input.contact ids) := by
  cases hCached : client.cachedToken.filter fun cached => input.contact.now < cached.expiresAt with
  | some cached =>
      have hToken : client.getS2SToken input.contact = (some cached.token, client) := by rw [getS2SToken, hCached]
      rw [Option.filter_eq_some_iff, decide_eq_true_eq] at hCached
      rw [fetchBatch, hToken]
      refine .kept cached hCached.1 hCached.2 ?_ rfl
      rintro _ ⟨⟩
      rfl
  | none =>
      have hOver : ∀ cached ∈ client.cachedToken, cached.expiresAt ≤ input.contact.now := by
        intro cached hMem
        rw [Option.filter_eq_none_iff] at hCached
        exact not_lt.mp fun hLasts => hCached cached hMem (decide_eq_true hLasts)
      cases hGenerated : input.contact.generated with
      | none =>
          have hToken : client.getS2SToken input.contact = (none, client) := by rw [getS2SToken, hCached, hGenerated]
          rw [fetchBatch, hToken]
          exact .none rfl rfl
      | some token =>
          have hToken : client.getS2SToken input.contact = (some token, { client with
              cachedToken := some { token, expiresAt := input.contact.now + client.tokenTtlMs } }) := by
            rw [getS2SToken, hCached, hGenerated]
          rw [fetchBatch, hToken]
          refine .renewed token hGenerated hOver ?_ rfl
          rintro _ ⟨⟩
          rfl

theorem uses_call (client : RestaurantServiceClient) (input : Call) : client.Uses input (client.call input) := by
  rw [call]
  cases input.restaurantIds with
  | none => exact uses_fetchBatch []
  | some ids =>
      cases ids with
      | nil => exact .none rfl rfl
      | cons id rest =>
          have hCall : client.getRestaurants input.contact (some (id :: rest)) =
              if uniqueIds (id :: rest) = [] then { restaurants := ∅, request := none, client }
              else client.fetchBatch input.contact (uniqueIds (id :: rest)) := rfl
          rw [hCall]
          split
          · exact .none rfl rfl
          · exact uses_fetchBatch _

/-- The kept token was generated by one of the calls, and lasts from then. -/
def Kept (tokenTtlMs : Nat) (calls : List Call) (client : RestaurantServiceClient) : Prop :=
  client.tokenTtlMs = tokenTtlMs ∧ ∀ cached ∈ client.cachedToken, ∃ input ∈ calls,
    input.contact.generated = some cached.token ∧ cached.expiresAt = input.contact.now + tokenTtlMs

theorem Kept.call {tokenTtlMs : Nat} (hKept : client.Kept tokenTtlMs calls) :
    (client.call input).client.Kept tokenTtlMs (calls ++ [input]) := by
  have hMore : client.Kept tokenTtlMs (calls ++ [input]) := by
    refine ⟨hKept.1, fun cached hCached => ?_⟩
    obtain ⟨earlier, hEarlier, hFrom⟩ := hKept.2 cached hCached
    exact ⟨earlier, List.mem_append_left _ hEarlier, hFrom⟩
  cases uses_call client input with
  | none hRequest hClient => rwa [hClient]
  | kept cached hCached hLasts hToken hClient => rwa [hClient]
  | renewed token hGenerated hOver hToken hClient =>
      rw [hClient]
      refine ⟨hKept.1, ?_⟩
      rintro _ ⟨⟩
      refine ⟨input, List.mem_append_right _ List.mem_cons_self, hGenerated, ?_⟩
      rw [← hKept.1]

theorem kept_after (tokenTtlMs : Nat) (calls : List Call) :
    ((started tokenTtlMs).after calls).Kept tokenTtlMs calls := by
  induction calls using List.reverseRecOn with
  | nil => exact ⟨rfl, fun _ hCached => nomatch hCached⟩
  | append_singleton calls input ih =>
      rw [after, Transition.run_append]
      exact ih.call

/-- A call that renews the token comes when the kept one is over. -/
theorem renewed_of_ne (h : (client.call input).client ≠ client) :
    (∀ cached ∈ client.cachedToken, cached.expiresAt ≤ input.contact.now) ∧ ∃ token, (client.call input).client =
      { client with cachedToken := some { token, expiresAt := input.contact.now + client.tokenTtlMs } } := by
  cases uses_call client input with
  | none hRequest hClient => exact absurd hClient h
  | kept cached hCached hLasts hToken hClient => exact absurd hClient h
  | renewed token hGenerated hOver hToken hClient => exact ⟨hOver, token, hClient⟩

theorem cached_le_of_mem_renewals {cached : CachedToken} {time : Instant} (hCached : client.cachedToken = some cached)
    (hClock : (calls.map (·.contact.now)).Pairwise (· ≤ ·)) (h : time ∈ client.renewals calls) :
    cached.expiresAt ≤ time := by
  induction calls generalizing client cached with
  | nil => cases h
  | cons input calls ih =>
      rw [List.map_cons, List.pairwise_cons] at hClock
      rw [renewals] at h
      split at h
      next hSame =>
          rw [hSame] at h
          exact ih hCached hClock.2 h
      next hOther =>
          obtain ⟨hOver, token, hNext⟩ := renewed_of_ne hOther
          rcases List.mem_cons.mp h with rfl | hLater
          · exact hOver cached hCached
          · rw [hNext] at hLater
            have hRenewed : input.contact.now + (client.tokenTtlMs : Int) ≤ time := ih rfl hClock.2 hLater
            have hLonger : input.contact.now ≤ input.contact.now + (client.tokenTtlMs : Int) :=
              Int.le_add_of_nonneg_right (Int.natCast_nonneg _)
            exact (hOver cached hCached).trans (hLonger.trans hRenewed)

theorem renewals_apart (client : RestaurantServiceClient)
    (hClock : (calls.map (·.contact.now)).Pairwise (· ≤ ·)) :
    (client.renewals calls).Pairwise fun earlier later => earlier + (client.tokenTtlMs : Int) ≤ later := by
  induction calls generalizing client with
  | nil => exact List.Pairwise.nil
  | cons input calls ih =>
      rw [List.map_cons, List.pairwise_cons] at hClock
      rw [renewals]
      split
      next hSame =>
          rw [hSame]
          exact ih client hClock.2
      next hOther =>
          obtain ⟨-, token, hNext⟩ := renewed_of_ne hOther
          have hLater := ih (client.call input).client hClock.2
          rw [hNext] at hLater ⊢
          exact List.pairwise_cons.mpr ⟨fun later hMem => cached_le_of_mem_renewals rfl hClock.2 hMem, hLater⟩

/-- Whatever calls the client has made, a request has a token that this call has
generated, or an earlier one less than the time to live before. Where the clock does not
go back, tokens are renewed at least the time to live apart. -/
theorem service_token_lasts (tokenTtlMs : Nat) (calls : List Call)
    (hClock : (calls.map (·.contact.now)).Pairwise (· ≤ ·)) :
    (∀ before input later, calls = before ++ input :: later →
      ∀ request ∈ (((started tokenTtlMs).after before).call input).request,
        input.contact.generated = some request.token ∨
          ∃ earlier ∈ before, earlier.contact.generated = some request.token ∧
            earlier.contact.now ≤ input.contact.now ∧ input.contact.now < earlier.contact.now + tokenTtlMs) ∧
      ((started tokenTtlMs).renewals calls).Pairwise fun earlier later => earlier + (tokenTtlMs : Int) ≤ later := by
  refine ⟨?_, renewals_apart (started tokenTtlMs) hClock⟩
  rintro before input later rfl request hRequest
  rw [List.map_append, List.pairwise_append] at hClock
  cases uses_call ((started tokenTtlMs).after before) input with
  | none hNone hClient =>
      rw [hNone] at hRequest
      cases hRequest
  | kept cached hCached hLasts hToken hClient =>
      obtain ⟨earlier, hEarlier, hGenerated, hExpires⟩ := (kept_after tokenTtlMs before).2 cached hCached
      refine Or.inr ⟨earlier, hEarlier, ?_, ?_, ?_⟩
      · rw [hToken request hRequest, hGenerated]
      · exact hClock.2.2 _ (List.mem_map_of_mem hEarlier) _ List.mem_cons_self
      · rw [← hExpires]
        exact hLasts
  | renewed token hGenerated hOver hToken hClient =>
      rw [hToken request hRequest]
      exact Or.inl hGenerated

/-- A call for all restaurants. -/
def callAt (now : Instant) (token : String) : Call where
  contact := { now, generated := some token, respond := fun _ => .failed }
  restaurantIds := none

/-- A second later the first token is used again, after its minute a new one. -/
theorem service_token_lasts_minute :
    let calls := [callAt 0 "first", callAt 1000 "second", callAt 61000 "third"]
    (∃ request ∈ (((started 60000).after [callAt 0 "first"]).call (callAt 1000 "second")).request,
      request.token = "first" ∧ ∃ earlier ∈ [callAt 0 "first"], earlier.contact.generated = some request.token ∧
        earlier.contact.now ≤ 1000 ∧ 1000 < earlier.contact.now + ((60000 : Nat) : Int)) ∧
      (started 60000).renewals calls = [0, 61000] ∧
      ((started 60000).renewals calls).Pairwise fun earlier later => earlier + ((60000 : Nat) : Int) ≤ later := by
  intro calls
  obtain ⟨hTokens, hApart⟩ := service_token_lasts 60000 calls (by decide)
  have hRequest : (((started 60000).after [callAt 0 "first"]).call (callAt 1000 "second")).request =
      some { token := "first", restaurantIds := [] } := by decide
  have hKept := hTokens [callAt 0 "first"] (callAt 1000 "second") [callAt 61000 "third"] rfl _ hRequest
  exact ⟨⟨_, hRequest, rfl, hKept.resolve_left (by decide)⟩, by decide, hApart⟩

end RestaurantServiceClient

end SpotqPayment
