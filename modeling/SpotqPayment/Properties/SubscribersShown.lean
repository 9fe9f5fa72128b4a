import SpotqPayment.Application.AdminSubscribers

/-! What the admins see of subscribers. The restaurant service adds names to the rows of
a page and to the details; whatever it answers, it takes no subscriber away and changes
nothing else. -/
namespace SpotqPayment

open Selection

/-- The answer to the request of a batch, where one was sent. -/
def RestaurantServiceClient.Batch.answer (batch : RestaurantServiceClient.Batch) (contact : Contact) : BatchResponse :=
  (batch.request.map contact.respond).getD .failed

/-- A row shows a subscriber: its restaurant is the last item of the answer that has the
restaurant's id, if any, and all the rest is stored. -/
structure AdminSubscriberSummaryDTO.Shows (response : BatchResponse) (sub : SubscriberSummary)
    (row : AdminSubscriberSummaryDTO) : Prop where
  described : ∀ item, response.itemOf sub.restaurantId.text = some item →
    item.id = row.restaurantId ∧ row = AdminSubscriberMapper.toSummaryDto sub (some item.info)
  bare : response.itemOf sub.restaurantId.text = none → row = AdminSubscriberMapper.toSummaryDto sub none

/-- A request asks for the restaurants of the subscriptions, each once. -/
structure BatchRequest.AsksFor (request : BatchRequest) (subscribers : List SubscriberSummary) : Prop where
  mem_iff : ∀ id, id ∈ request.restaurantIds ↔ ∃ sub ∈ subscribers, sub.restaurantId.text = id
  nodup : request.restaurantIds.Nodup
  few : request.restaurantIds.length ≤ 100

namespace RestaurantServiceClient

variable {client : RestaurantServiceClient} {contact : Contact} {ids : List String}

theorem fetchBatch_restaurants : (client.fetchBatch contact ids).restaurants =
    ((client.fetchBatch contact ids).answer contact).restaurants := by
  rw [fetchBatch]
  split <;> rfl

theorem getRestaurants_some : client.getRestaurants contact (some ids) =
    if uniqueIds ids = [] then { restaurants := ∅, request := none, client }
    else client.fetchBatch contact (uniqueIds ids) := by
  cases ids with
  | nil => rfl
  | cons id rest => rfl

theorem getRestaurants_restaurants : (client.getRestaurants contact (some ids)).restaurants =
    ((client.getRestaurants contact (some ids)).answer contact).restaurants := by
  rw [getRestaurants_some]
  split
  · rfl
  · exact fetchBatch_restaurants

theorem fetchBatch_request : (client.fetchBatch contact ids).request =
    (client.getS2SToken contact).1.map fun token => { token, restaurantIds := ids } := by
  rw [fetchBatch]
  split <;> simp_all

theorem getRestaurants_request : (client.getRestaurants contact (some ids)).request =
    if uniqueIds ids = [] then none
    else (client.getS2SToken contact).1.map fun token => { token, restaurantIds := uniqueIds ids } := by
  rw [getRestaurants_some]
  split
  · rfl
  · exact fetchBatch_request

end RestaurantServiceClient

section Requests

variable {subscribers : List SubscriberSummary}

theorem mem_uniqueIds_restaurants {id : String} :
    id ∈ uniqueIds (subscribers.map fun sub => sub.restaurantId.text) ↔
      ∃ sub ∈ subscribers, sub.restaurantId.text = id := by
  rw [mem_uniqueIds]
  constructor
  · rintro ⟨-, other, hOther, rfl⟩
    obtain ⟨sub, hSub, rfl⟩ := List.mem_map.mp hOther
    exact ⟨sub, hSub, (trim_text _).symm⟩
  · rintro ⟨sub, hSub, rfl⟩
    exact ⟨text_ne_empty _, _, List.mem_map_of_mem hSub, trim_text _⟩

theorem uniqueIds_restaurants_eq_nil :
    uniqueIds (subscribers.map fun sub => sub.restaurantId.text) = [] ↔ subscribers = [] := by
  constructor
  · intro hEmpty
    refine List.eq_nil_iff_forall_not_mem.mpr fun sub hSub => ?_
    have hMem := mem_uniqueIds_restaurants.mpr ⟨sub, hSub, rfl⟩
    rw [hEmpty] at hMem
    exact List.not_mem_nil hMem
  · rintro rfl
    rfl

theorem length_uniqueIds_le (ids : List String) : (uniqueIds ids).length ≤ ids.length := by
  have hSubset : uniqueIds ids ⊆ ids.map trim := by
    intro id hMem
    obtain ⟨-, other, hOther, rfl⟩ := mem_uniqueIds.mp hMem
    exact List.mem_map_of_mem hOther
  have hLength := ((uniqueIds_nodup ids).subperm hSubset).length_le
  rwa [List.length_map] at hLength

theorem asksFor_uniqueIds (token : String) (h : subscribers.length ≤ 100) :
    ({ token, restaurantIds := uniqueIds (subscribers.map fun sub => sub.restaurantId.text) } : BatchRequest).AsksFor
      subscribers where
  mem_iff := fun _ => mem_uniqueIds_restaurants
  nodup := uniqueIds_nodup _
  few := by
    have hLength := length_uniqueIds_le (subscribers.map fun sub => sub.restaurantId.text)
    rw [List.length_map] at hLength
    exact hLength.trans h

end Requests

section Rows

theorem shows_toSummaryDto (response : BatchResponse) (sub : SubscriberSummary) :
    (AdminSubscriberMapper.toSummaryDto sub (response.restaurants.lookup sub.restaurantId.text)).Shows response sub where
  described := by
    intro item hItem
    rw [BatchResponse.lookup_restaurants, hItem]
    exact ⟨BatchResponse.itemOf_id hItem, rfl⟩
  bare := by
    intro hNone
    rw [BatchResponse.lookup_restaurants, hNone]
    rfl

theorem length_findSubscribersPaginated_le (repository : SubscriberRepository) (tables : SubscriberTables)
    (params : SubscriberFilterParams) :
    (repository.findSubscribersPaginated tables params).subscribers.length ≤ 100 := by
  have hLimit : (SubscriberRepository.limit params).toNat ≤ 100 := by
    rw [SubscriberRepository.limit]
    omega
  exact ((List.length_filterMap_le _ _).trans length_findMany_le).trans hLimit

end Rows

variable (repository : SubscriberRepository) (tables : SubscriberTables) (client : RestaurantServiceClient)
  (contact : Contact) (query : ListAdminSubscribersQueryDTO)

/-- The admins get the page that the repository has found, row by row, whatever becomes
of the restaurant service. A page that is not empty is asked about once there is a token,
and the request has each of its restaurants once. -/
theorem subscribers_shown :
    let result := repository.findSubscribersPaginated tables query.params
    let shown := getAdminSubscribers repository tables client contact query
    shown.1.pagination = result.pagination ∧
      List.Forall₂ (AdminSubscriberSummaryDTO.Shows (shown.2.answer contact)) result.subscribers shown.1.subscribers ∧
      (∀ request ∈ shown.2.request, request.AsksFor result.subscribers) ∧
      (shown.2.request = none ↔ result.subscribers = [] ∨ (client.getS2SToken contact).1 = none) := by
  intro result shown
  have hRequest : shown.2.request = if uniqueIds (result.subscribers.map fun sub => sub.restaurantId.text) = [] then none
      else (client.getS2SToken contact).1.map fun token =>
        { token, restaurantIds := uniqueIds (result.subscribers.map fun sub => sub.restaurantId.text) } :=
    RestaurantServiceClient.getRestaurants_request
  refine ⟨rfl, ?_, ?_, ?_⟩
  · have hRows : shown.1.subscribers = result.subscribers.map fun sub =>
        AdminSubscriberMapper.toSummaryDto sub ((shown.2.answer contact).restaurants.lookup sub.restaurantId.text) := by
      have hAnswer : shown.2.restaurants = (shown.2.answer contact).restaurants :=
        RestaurantServiceClient.getRestaurants_restaurants
      rw [← hAnswer]
      rfl
    rw [hRows]
    exact List.forall₂_map_right_iff.mpr (List.forall₂_same.mpr fun sub _ => shows_toSummaryDto _ sub)
  · intro request hSent
    rw [Option.mem_def, hRequest] at hSent
    split at hSent
    · cases hSent
    · obtain ⟨token, -, rfl⟩ := Option.map_eq_some_iff.mp hSent
      exact asksFor_uniqueIds token (length_findSubscribersPaginated_le _ _ _)
  · rw [hRequest]
    split
    next hEmpty => exact iff_of_true rfl (Or.inl (uniqueIds_restaurants_eq_nil.mp hEmpty))
    next hSome => rw [Option.map_eq_none_iff, or_iff_right (mt uniqueIds_restaurants_eq_nil.mpr hSome)]

section Details

variable {repository : SubscriberDetailRepository} {tables : SubscriberDetailTables} {client : RestaurantServiceClient}
  {contact : Contact} {subscriberId : String} {id : Uuid} {record : Subscription}

/-- The details show a subscription with its ten latest payments and invoices. -/
structure AdminSubscriberDetailsOutputDTO.Shows (tables : SubscriberDetailTables) (response : BatchResponse)
    (record : Subscription) (shown : AdminSubscriberDetailsOutputDTO) : Prop where
  stored : record ∈ tables.subscriptions.rows
  summary : ∃ sub, SubscriberRepository.summary tables.toSubscriberTables record = some sub ∧
    shown.toAdminSubscriberSummaryDTO.Shows response sub
  transactions : ∃ rows, shown.transactions =
      rows.map (fun tx => AdminSubscriberMapper.transactionDto tx.subscriberSummary) ∧
    IsLatest tables.transactions (fun tx => tx.subscriptionId = some record.id) PaymentTransaction.createdAt 10 rows
  invoices : ∃ rows, shown.invoices =
      rows.map (fun inv => AdminSubscriberMapper.invoiceDto inv.subscriberSummary) ∧
    IsLatest tables.invoices (fun inv => inv.subscriptionId = some record.id) BillingInvoice.createdAt 10 rows

/-- A text names a subscription, by its own id or by its restaurant's, in either case. -/
def Subscription.HasId (row : Subscription) (text : String) : Prop :=
  row.id.text = text.toLower ∨ row.restaurantId.text = text.toLower

theorem hasId_iff {row : Subscription} (h : parseUuid subscriberId = some id) :
    row.HasId subscriberId ↔ row.id = id ∨ row.restaurantId = id := by
  rw [Subscription.HasId, ← text_of_parseUuid h]
  exact or_congr ⟨text_injective, congrArg Uuid.text⟩ ⟨text_injective, congrArg Uuid.text⟩

theorem findRecord_eq_none : repository.findRecord tables id = none ↔
    ∀ row ∈ tables.subscriptions.rows, row.id ≠ id ∧ row.restaurantId ≠ id := by
  rw [SubscriberDetailRepository.findRecord, List.head?_eq_none_iff, findMany_one_eq_nil]
  refine forall₂_congr fun row _ => ?_
  rw [Bool.or_eq_false_iff, decide_eq_false_iff_not, decide_eq_false_iff_not]

theorem findRecord_eq_some (h : repository.findRecord tables id = some record) :
    record ∈ tables.subscriptions.rows ∧ (record.id = id ∨ record.restaurantId = id) := by
  have hMem := mem_findMany (List.mem_of_mem_head? h)
  rw [Bool.or_eq_true, decide_eq_true_eq, decide_eq_true_eq] at hMem
  exact hMem

/-- A restaurant is looked up by its own id in the answer to a request for it alone. -/
theorem getRestaurantById_text (restaurantId : Uuid) : ∃ response : BatchResponse,
    (client.getRestaurantById contact restaurantId.text).1 = response.restaurants.lookup restaurantId.text ∧
      (response = .failed ∨ ∃ token, response = contact.respond { token, restaurantIds := [restaurantId.text] }) := by
  have hIds : uniqueIds [restaurantId.text] = [restaurantId.text] := by
    have hFilter : [restaurantId.text].filter (fun id => decide (id ≠ "")) = [restaurantId.text] :=
      List.filter_cons_of_pos (decide_eq_true (text_ne_empty _))
    rw [uniqueIds, List.map_singleton, trim_text]
    exact hFilter
  rw [RestaurantServiceClient.getRestaurantById, trim_text, if_neg (text_ne_empty _)]
  refine ⟨(client.getRestaurants contact (some [restaurantId.text])).answer contact, ?_, ?_⟩
  · rw [← RestaurantServiceClient.getRestaurants_restaurants]
  · rw [RestaurantServiceClient.Batch.answer, RestaurantServiceClient.getRestaurants_request, hIds,
      if_neg (List.cons_ne_nil _ _)]
    cases (client.getS2SToken contact).1 with
    | none => exact Or.inl rfl
    | some token => exact Or.inr ⟨token, rfl⟩

theorem detail_shows {detail : SubscriberDetail} (response : BatchResponse)
    (hRecord : record ∈ tables.subscriptions.rows) (h : repository.detail tables record = some detail) :
    detail.restaurantId = record.restaurantId ∧
      (AdminSubscriberMapper.toDetailsDto detail (response.restaurants.lookup detail.restaurantId.text)).Shows tables
        response record := by
  obtain ⟨sub, hSub, rfl⟩ := Option.map_eq_some_iff.mp h
  have hRestaurant : sub.restaurantId = record.restaurantId := by
    obtain ⟨plan, -, rfl⟩ := Option.map_eq_some_iff.mp hSub
    rfl
  refine ⟨hRestaurant, hRecord, ⟨sub, hSub, shows_toSummaryDto response sub⟩, ?_, ?_⟩
  · exact ⟨_, List.map_map, isLatest_findMany⟩
  · exact ⟨_, List.map_map, isLatest_findMany⟩

/-- Details are refused exactly where `UUID_REGEX` does not take the id, be it stored or
not, or no subscription has it. Otherwise they show a subscription that has it. -/
theorem subscriber_details_shown (repository : SubscriberDetailRepository) (tables : SubscriberDetailTables)
    (client : RestaurantServiceClient) (contact : Contact) (subscriberId : String) :
    match (getAdminSubscriberDetails repository tables client contact subscriberId).1 with
    | .error _ => isUuid subscriberId = false ∨ ∀ row ∈ tables.subscriptions.rows, ¬ row.HasId subscriberId
    | .ok shown => isUuid subscriberId = true ∧ ∃ record response, record.HasId subscriberId ∧
        shown.Shows tables response record ∧
          (response = .failed ∨
            ∃ token, response = contact.respond { token, restaurantIds := [record.restaurantId.text] }) := by
  cases hParse : parseUuid subscriberId with
  | none =>
      simp only [getAdminSubscriberDetails, SubscriberDetailRepository.findSubscriberDetailById, hParse]
      exact Or.inl (parseUuid_eq_none.mp hParse)
  | some id =>
      have hUuid := (parseUuid_eq_some.mp hParse).1
      cases hRecord : repository.findRecord tables id with
      | none =>
          simp only [getAdminSubscriberDetails, SubscriberDetailRepository.findSubscriberDetailById, hParse, hRecord,
            Option.bind_none]
          refine Or.inr fun row hRow hId => ?_
          obtain ⟨hOwn, hRestaurant⟩ := findRecord_eq_none.mp hRecord row hRow
          exact ((hasId_iff hParse).mp hId).elim hOwn hRestaurant
      | some record =>
          obtain ⟨hStored, hId⟩ := findRecord_eq_some hRecord
          obtain ⟨plan, hPlan⟩ := Option.isSome_iff_exists.mp (tables.plan_exists record hStored)
          obtain ⟨detail, hDetail⟩ : ∃ detail, repository.detail tables record = some detail := by
            rw [SubscriberDetailRepository.detail, SubscriberRepository.summary, hPlan]
            exact ⟨_, rfl⟩
          obtain ⟨response, hLookup, hSent⟩ :=
            @getRestaurantById_text client contact detail.restaurantId
          obtain ⟨hRestaurant, hShows⟩ := detail_shows response hStored hDetail
          simp only [getAdminSubscriberDetails, SubscriberDetailRepository.findSubscriberDetailById, hParse, hRecord,
            Option.bind_some, hDetail, hLookup]
          rw [hRestaurant] at hSent
          exact ⟨hUuid, record, response, (hasId_iff hParse).mpr hId, hShows, hSent⟩

/-- An id of version 7. -/
example : isUuid "018f3a5c-0000-7000-8000-000000000007" = false := by decide +kernel

end Details

end SpotqPayment
