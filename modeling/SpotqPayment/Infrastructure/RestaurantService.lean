import Mathlib.Data.List.AList
import SpotqPayment.Domain.Entities

/-! The client of the restaurant service. It asks for the restaurants of a batch of ids
with a service token, which it keeps until its time has come. Whatever goes wrong on the
way, the caller gets the restaurants that were read up to then. -/
namespace SpotqPayment

/-- `RestaurantBatchItemApiResponse`, by the fields that the client reads. -/
structure RestaurantBatchItem where
  id : String
  restaurantName : Option String
  ownerName : Option String
  ownerEmail : Option String
  email : Option String
  status : Option String
  isBlocked : Option Bool
  deriving DecidableEq, Repr

/-- What becomes of a request: `fetch` or `res.json()` throws, the status is not ok, or
there is a body, whose list may be missing and may have items that are null. -/
inductive BatchResponse where
  | failed
  | refused
  | answered (data : Option (List (Option RestaurantBatchItem)))

structure RestaurantInfoDTO where
  id : String
  restaurantName : String
  ownerName : String
  ownerEmail : String
  status : String
  isBlocked : Bool
  deriving DecidableEq, Repr

/-- `Map<string, RestaurantInfoDTO>`. -/
abbrev RestaurantMap := AList fun _ : String => RestaurantInfoDTO

/-- The `Authorization` header and the body of a request. -/
structure BatchRequest where
  token : String
  restaurantIds : List String
  deriving DecidableEq, Repr

structure CachedToken where
  token : String
  expiresAt : Instant
  deriving DecidableEq, Repr

structure RestaurantServiceClient where
  tokenTtlMs : Nat
  cachedToken : Option CachedToken
  deriving DecidableEq, Repr

/-- What the environment contributes to a call: the clock, the token that
`generateToken` returns unless it throws, and the answer of the restaurant service. -/
structure Contact where
  now : Instant
  generated : Option String
  respond : BatchRequest → BatchResponse

/-- The values that stand in for missing or empty fields. -/
def RestaurantBatchItem.info (item : RestaurantBatchItem) : RestaurantInfoDTO where
  id := item.id
  restaurantName := (truthy item.restaurantName).getD "SpotQ Restaurant"
  ownerName := (truthy item.ownerName).getD "-"
  ownerEmail := ((truthy item.ownerEmail).or (truthy item.email)).getD "-"
  status := (truthy item.status).getD "ACTIVE"
  isBlocked := item.isBlocked.getD false

/-- The loop over the items. Reading the id of null throws, and the rest stays unread. -/
def readItems : List (Option RestaurantBatchItem) → RestaurantMap → RestaurantMap
  | [], resultMap => resultMap
  | none :: _, resultMap => resultMap
  | some item :: rest, resultMap => readItems rest (resultMap.insert item.id item.info)

def BatchResponse.restaurants : BatchResponse → RestaurantMap
  | .failed => ∅
  | .refused => ∅
  | .answered data => readItems (data.getD []) ∅

/-- `Array.from(new Set(ids.map((id) => id.trim()))).filter(Boolean)`. -/
def uniqueIds (restaurantIds : List String) : List String := ((restaurantIds.map trim).eraseDups).filter (· ≠ "")

namespace RestaurantServiceClient

/-- The kept token while it lasts, or a new one, which is then kept. -/
def getS2SToken (client : RestaurantServiceClient) (contact : Contact) : Option String × RestaurantServiceClient :=
  match client.cachedToken.filter fun cached => contact.now < cached.expiresAt with
  | some cached => (some cached.token, client)
  | none =>
      match contact.generated with
      | none => (none, client)
      | some token => (some token, { client with
          cachedToken := some { token, expiresAt := contact.now + client.tokenTtlMs } })

/-- The restaurants that were read, the request that was sent, and the client afterwards. -/
structure Batch where
  restaurants : RestaurantMap
  request : Option BatchRequest
  client : RestaurantServiceClient

/-- The part of `getRestaurants` inside `try`. -/
def fetchBatch (client : RestaurantServiceClient) (contact : Contact) (restaurantIds : List String) : Batch :=
  match client.getS2SToken contact with
  | (none, client) => { restaurants := ∅, request := none, client }
  | (some token, client) =>
      let request := { token, restaurantIds }
      { restaurants := (contact.respond request).restaurants, request := some request, client }

/-- Without a list of ids the client asks for all restaurants, by an empty list. -/
def getRestaurants (client : RestaurantServiceClient) (contact : Contact) (restaurantIds : Option (List String)) :
    Batch :=
  match restaurantIds with
  | none => client.fetchBatch contact []
  | some [] => { restaurants := ∅, request := none, client }
  | some ids =>
      if uniqueIds ids = [] then { restaurants := ∅, request := none, client }
      else client.fetchBatch contact (uniqueIds ids)

def getRestaurantById (client : RestaurantServiceClient) (contact : Contact) (id : String) :
    Option RestaurantInfoDTO × RestaurantServiceClient :=
  if trim id = "" then (none, client)
  else
    let batch := client.getRestaurants contact (some [trim id])
    (batch.restaurants.lookup (trim id), batch.client)

end RestaurantServiceClient

section Restaurants

variable {items : List (Option RestaurantBatchItem)} {restaurants : RestaurantMap} {id : String}

/-- The items that the loop gets to. -/
def reachedItems (items : List (Option RestaurantBatchItem)) : List RestaurantBatchItem :=
  (items.takeWhile Option.isSome).reduceOption

/-- The last item with an id counts. -/
theorem lookup_readItems : (readItems items restaurants).lookup id =
    (((reachedItems items).reverse.find? fun item => item.id = id).map RestaurantBatchItem.info).or
      (restaurants.lookup id) := by
  induction items generalizing restaurants with
  | nil => rfl
  | cons item rest ih =>
      cases item with
      | none => rfl
      | some item =>
          have hReached : reachedItems (some item :: rest) = item :: reachedItems rest := rfl
          rw [readItems, ih, hReached, List.reverse_cons, List.find?_append]
          cases hLater : (reachedItems rest).reverse.find? fun other => other.id = id with
          | some later => rfl
          | none =>
              by_cases hId : item.id = id
              · subst hId
                have hFound : [item].find? (fun other => other.id = item.id) = some item :=
                  List.find?_cons_of_pos (decide_eq_true rfl)
                rw [AList.lookup_insert, hFound]
                rfl
              · rw [AList.lookup_insert_ne (Ne.symm hId), List.find?_cons_of_neg (by simpa using hId)]
                rfl

/-- The item that describes a restaurant in an answer. -/
def BatchResponse.itemOf (response : BatchResponse) (id : String) : Option RestaurantBatchItem :=
  match response with
  | .failed => none
  | .refused => none
  | .answered data => (reachedItems (data.getD [])).reverse.find? fun item => item.id = id

theorem BatchResponse.lookup_restaurants (response : BatchResponse) :
    response.restaurants.lookup id = (response.itemOf id).map RestaurantBatchItem.info := by
  cases response with
  | failed => rfl
  | refused => rfl
  | answered data =>
      rw [restaurants, lookup_readItems, itemOf, AList.lookup_empty, Option.or_none]

theorem BatchResponse.itemOf_id {response : BatchResponse} {item : RestaurantBatchItem}
    (h : response.itemOf id = some item) : item.id = id := by
  cases response with
  | failed => cases h
  | refused => cases h
  | answered data => simpa using List.find?_some h

end Restaurants

section Ids

variable {ids : List String}

theorem nodup_eraseDups {Value : Type} [BEq Value] [LawfulBEq Value] (values : List Value) :
    values.eraseDups.Nodup := by
  induction hLength : values.length using Nat.strong_induction_on generalizing values with
  | _ length ih =>
      cases values with
      | nil => exact List.nodup_nil
      | cons value rest =>
          rw [List.eraseDups_cons, List.nodup_cons, List.mem_eraseDups, List.mem_filter]
          refine ⟨fun hMem => by simp at hMem, ih _ ?_ _ rfl⟩
          rw [← hLength, List.length_cons]
          exact Nat.lt_succ_of_le (List.length_filter_le _ _)

theorem uniqueIds_nodup (ids : List String) : (uniqueIds ids).Nodup :=
  (nodup_eraseDups _).sublist List.filter_sublist

theorem mem_uniqueIds {id : String} : id ∈ uniqueIds ids ↔ id ≠ "" ∧ ∃ other ∈ ids, trim other = id := by
  rw [uniqueIds, List.mem_filter, List.mem_eraseDups, List.mem_map, decide_eq_true_eq, and_comm]

end Ids

end SpotqPayment
