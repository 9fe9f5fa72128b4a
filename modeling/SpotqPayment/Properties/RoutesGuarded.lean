import SpotqPayment.Presentation.Routes
import SpotqPayment.Properties.PaymentKinds

/-! What a request has proved by the time it reaches a handler. -/
namespace SpotqPayment

open Process Router PaymentTransactionRepository

variable {gate : Gate} {redis : Redis} {request final : HttpRequest} {handler : RouteHandler} {params : Params}

def HttpHeaders.NamesUser (headers : HttpHeaders) : Prop := ∃ userId, truthy headers.userId = some userId

def HttpHeaders.IsAdmin (headers : HttpHeaders) : Prop :=
  headers.NamesUser ∧ ∃ role, headers.userRole = some role ∧ trim role.toLower = "admin"

/-- The user is known to the handler, and no other role is claimed. -/
def HttpRequest.IsCustomer (request : HttpRequest) : Prop :=
  (∃ user, request.user = some user ∧ request.headers.userId = some user.userId ∧ user.userId ≠ "") ∧
    ∀ role, truthy (request.headers.userRole.map String.toLower) = some role → role = "customer"

/-- What the request that reaches a handler has shown of its sender. -/
def RouteHandler.Admits (gate : Gate) (redis : Redis) (request : HttpRequest) : RouteHandler → Prop
  | .createGatewayOrder => gate.authMiddleware request.headers.authorization = .ok ()
  | .processRefund => gate.authMiddleware request.headers.authorization = .ok () ∧
      ∃ key, idempotencyKey request.headers.idempotencyKey = some key ∧ storedAnswer key redis = none
  | .verifyOrderPayment | .getOrderStatus => request.IsCustomer
  | .listTransactions | .getTransactionDetail => restaurantAdminAuthMiddleware request.headers.restaurant = .ok ()
  | .getSummary | .getLedger | .exportLedgerCsv | .listSubscribers | .getSubscriberDetails => request.headers.IsAdmin
  | .check | .metrics | .getPlans | .createOrder | .verifyPayment | .getStatus | .handleWebhook => True

/-- What the schema in front of a handler makes of a request, where there is one. -/
def RouteHandler.parsed? (gate : Gate) (params : Params) (request : HttpRequest) : RouteHandler → Option HttpRequest
  | .createGatewayOrder => request.validateRequestBody gate .createOrderPayment
  | .processRefund => request.validateRequestBody gate .processOrderRefund
  | .verifyOrderPayment => request.validateRequestBody gate .verifyOrderPayment
  | .getOrderStatus => request.validateRequestParams gate .getOrderPaymentStatusParams params
  | .getSubscriberDetails => request.validateRequestParams gate .getAdminSubscriberDetailsParams params
  | .getLedger => request.validateRequestQuery gate .getPlatformMasterLedger
  | .exportLedgerCsv => request.validateRequestQuery gate .exportPlatformMasterLedger
  | .listSubscribers => request.validateRequestQuery gate .listAdminSubscribers
  | .check | .metrics | .getPlans | .createOrder | .verifyPayment | .getStatus | .handleWebhook | .listTransactions
  | .getTransactionDetail | .getSummary => some request

section Middlewares

variable {next : HttpRequest}

/-- What all middlewares leave of a request; they add no user but that of the header. -/
structure HttpRequest.Extends (next request : HttpRequest) : Prop where
  headers : next.headers = request.headers
  rawBody : next.rawBody = request.rawBody
  user : next.user = request.user ∨ ∃ user, next.user = some user ∧ request.headers.userId = some user.userId

theorem HttpRequest.Extends.refl (request : HttpRequest) : request.Extends request := ⟨rfl, rfl, Or.inl rfl⟩

/-- The request with the user of its header. -/
def HttpRequest.Names (next request : HttpRequest) : Prop :=
  ∃ user, next = { request with user := some user } ∧ request.headers.userId = some user.userId

theorem HttpRequest.Names.extends (h : next.Names request) : next.Extends request := by
  obtain ⟨user, rfl, hUser⟩ := h
  exact ⟨rfl, rfl, Or.inr ⟨user, rfl, hUser⟩⟩

theorem adminAuthMiddleware_ok (h : adminAuthMiddleware request = .ok next) :
    next.Names request ∧ request.headers.IsAdmin := by
  unfold adminAuthMiddleware at h
  split at h
  · cases h
  · next userId hUser =>
      split at h
      · cases h
      · next role hRole =>
          split at h
          · next hAdmin =>
              cases h
              obtain ⟨text, hText, hSame⟩ := Option.map_eq_some_iff.mp (truthy_eq_some hRole).1
              refine ⟨⟨_, rfl, (truthy_eq_some hUser).1⟩, ⟨userId, hUser⟩, text, hText, ?_⟩
              exact hSame.trans hAdmin
          · cases h

theorem customerAuthMiddleware_ok (h : customerAuthMiddleware request = .ok next) :
    next.Names request ∧ next.IsCustomer := by
  unfold customerAuthMiddleware at h
  split at h
  · cases h
  · next userId hUser =>
      obtain ⟨hHeader, hNonEmpty⟩ := truthy_eq_some hUser
      split at h
      · next role hRole =>
          split at h
          · next hCustomer =>
              cases h
              refine ⟨⟨_, rfl, hHeader⟩, ⟨_, rfl, hHeader, hNonEmpty⟩, ?_⟩
              intro other hOther
              rw [hRole] at hOther
              exact Option.some.inj hOther ▸ hCustomer
          · cases h
      · next hNone =>
          cases h
          refine ⟨⟨_, rfl, hHeader⟩, ⟨_, rfl, hHeader, hNonEmpty⟩, ?_⟩
          intro other hOther
          rw [hNone] at hOther
          cases hOther

theorem mapError_ok {Value Error Other : Type} {result : Except Error Value} {rename : Error → Other}
    {value : Value} (h : result.mapError rename = .ok value) : result = .ok value := by
  cases result with
  | error error => cases h
  | ok found =>
      cases h
      rfl

theorem map_ok {Value Result Error : Type} {result : Except Error Value} {f : Value → Result} {value : Result}
    (h : result.map f = .ok value) : ∃ found, result = .ok found ∧ f found = value := by
  cases result with
  | error error => cases h
  | ok found =>
      cases h
      exact ⟨found, rfl, rfl⟩

theorem validate_ok {parsed : Option HttpRequest} (h : validate parsed = .ok next) : parsed = some next := by
  unfold validate at h
  split at h
  · cases h
    rfl
  · cases h

theorem validateRequestHeaders_some (h : request.validateRequestHeaders = some next) : next = request := by
  rw [HttpRequest.validateRequestHeaders] at h
  split at h
  · exact (Option.some.inj h).symm
  · cases h

theorem passIdempotency_ok (h : passIdempotency redis request = .ok next) : next = request ∧
    ∃ key, idempotencyKey request.headers.idempotencyKey = some key ∧ storedAnswer key redis = none := by
  unfold passIdempotency at h
  cases hKey : idempotencyKey request.headers.idempotencyKey with
  | none =>
      unfold idempotencyMiddleware at h
      rw [hKey] at h
      cases h
  | some key =>
      cases hStored : storedAnswer key redis with
      | some body =>
          rw [exec_stored hKey hStored] at h
          cases h
      | none =>
          refine ⟨?_, key, rfl, hStored⟩
          split at h
          · cases h
          · cases h
          · cases h
            rfl

theorem perform_restaurantAdminAuth_ok
    (h : RouteMiddleware.perform gate redis .restaurantAdminAuth params request = .ok next) :
    next = request ∧ restaurantAdminAuthMiddleware request.headers.restaurant = .ok () := by
  obtain ⟨passed, hPassed, rfl⟩ := map_ok h
  exact ⟨rfl, mapError_ok hPassed⟩

theorem perform_internalS2SAuth_ok
    (h : RouteMiddleware.perform gate redis .internalS2SAuth params request = .ok next) :
    next = request ∧ gate.authMiddleware request.headers.authorization = .ok () := by
  obtain ⟨passed, hPassed, rfl⟩ := map_ok h
  exact ⟨rfl, mapError_ok hPassed⟩

/-- What a middleware makes of a request, its user apart. -/
def RouteMiddleware.parsed? (gate : Gate) (params : Params) (request : HttpRequest) :
    RouteMiddleware → Option HttpRequest
  | .validateRequestBody schema => request.validateRequestBody gate schema
  | .validateRequestParams schema => request.validateRequestParams gate schema params
  | .validateRequestQuery schema => request.validateRequestQuery gate schema
  | .adminAuth | .customerAuth | .restaurantAdminAuth | .internalS2SAuth | .idempotency | .validateRequestHeaders =>
      some request

/-- A middleware leaves the request as its schema has parsed it, or names its user. -/
theorem perform_ok {middleware : RouteMiddleware} (h : middleware.perform gate redis params request = .ok next) :
    middleware.parsed? gate params request = some next ∨
      middleware.parsed? gate params request = some request ∧ next.Names request := by
  cases middleware with
  | adminAuth => exact Or.inr ⟨rfl, (adminAuthMiddleware_ok (mapError_ok h)).1⟩
  | customerAuth => exact Or.inr ⟨rfl, (customerAuthMiddleware_ok (mapError_ok h)).1⟩
  | restaurantAdminAuth => exact Or.inl ((perform_restaurantAdminAuth_ok h).1 ▸ rfl)
  | internalS2SAuth => exact Or.inl ((perform_internalS2SAuth_ok h).1 ▸ rfl)
  | idempotency => exact Or.inl ((passIdempotency_ok h).1 ▸ rfl)
  | validateRequestHeaders => exact Or.inl (validateRequestHeaders_some (validate_ok h) ▸ rfl)
  | validateRequestBody => exact Or.inl (validate_ok h)
  | validateRequestParams => exact Or.inl (validate_ok h)
  | validateRequestQuery => exact Or.inl (validate_ok h)

/-- Schemas do not touch the headers, the text of the body and the user. -/
theorem parsed_extends {middleware : RouteMiddleware} (h : middleware.parsed? gate params request = some next) :
    next.Extends request := by
  cases middleware with
  | validateRequestBody =>
      obtain ⟨_, _, rfl⟩ := Option.map_eq_some_iff.mp h
      exact ⟨rfl, rfl, Or.inl rfl⟩
  | validateRequestParams =>
      obtain ⟨_, _, rfl⟩ := Option.map_eq_some_iff.mp h
      exact ⟨rfl, rfl, Or.inl rfl⟩
  | validateRequestQuery =>
      obtain ⟨_, _, rfl⟩ := Option.map_eq_some_iff.mp h
      exact ⟨rfl, rfl, Or.inl rfl⟩
  | _ => exact Option.some.inj h ▸ .refl request

/-- The middlewares only extend a request. -/
theorem perform_extends {middleware : RouteMiddleware}
    (h : middleware.perform gate redis params request = .ok next) : next.Extends request := by
  rcases perform_ok h with hParsed | ⟨-, hNames⟩
  · exact parsed_extends hParsed
  · exact hNames.extends

theorem parsed_withUser {middleware : RouteMiddleware} (user : Option RequestUser)
    (h : middleware.parsed? gate params request = some next) :
    middleware.parsed? gate params { request with user } = some { next with user } := by
  cases middleware with
  | validateRequestBody =>
      obtain ⟨output, hOutput, rfl⟩ := Option.map_eq_some_iff.mp h
      exact Option.map_eq_some_iff.mpr ⟨output, hOutput, rfl⟩
  | validateRequestParams =>
      obtain ⟨output, hOutput, rfl⟩ := Option.map_eq_some_iff.mp h
      exact Option.map_eq_some_iff.mpr ⟨output, hOutput, rfl⟩
  | validateRequestQuery =>
      obtain ⟨output, hOutput, rfl⟩ := Option.map_eq_some_iff.mp h
      exact Option.map_eq_some_iff.mpr ⟨output, hOutput, rfl⟩
  | _ =>
      cases h
      rfl

/-- Whoever the user is, a middleware makes the same of the rest of a request. -/
theorem perform_parsed {middleware : RouteMiddleware} (user : Option RequestUser)
    (h : middleware.perform gate redis params request = .ok next) :
    middleware.parsed? gate params { request with user } = some { next with user } := by
  rcases perform_ok h with hParsed | ⟨hParsed, found, rfl, -⟩
  · exact parsed_withUser user hParsed
  · have hSame := parsed_withUser user hParsed
    exact hSame

end Middlewares

section Handlers

theorem HttpRequest.Extends.trans {next origin : HttpRequest} (h : next.Extends request)
    (hOld : request.Extends origin) : next.Extends origin where
  headers := h.headers.trans hOld.headers
  rawBody := h.rawBody.trans hOld.rawBody
  user := by
    rcases h.user with hSame | ⟨user, hUser, hHeader⟩
    · rw [hSame]
      exact hOld.user
    · exact Or.inr ⟨user, hUser, hOld.headers ▸ hHeader⟩

theorem HttpRequest.IsCustomer.extends {next : HttpRequest} (h : request.IsCustomer) (hNext : next.Extends request) :
    next.IsCustomer := by
  obtain ⟨⟨user, hUser, hHeader, hNonEmpty⟩, hRole⟩ := h
  refine ⟨?_, hNext.headers ▸ hRole⟩
  rw [hNext.headers]
  rcases hNext.user with hSame | ⟨other, hOther, hSame⟩
  · exact ⟨user, hSame.trans hUser, hHeader, hNonEmpty⟩
  · have hId : user.userId = other.userId := Option.some.inj (hHeader.symm.trans hSame)
    exact ⟨other, hOther, hSame, hId ▸ hNonEmpty⟩

theorem reached_rules (h : request.dispatch gate redis = .reached handler params final) :
    dispatchRules (RouteMiddleware.perform gate redis) request.method.handles request.path (rulesOf [] router)
      request = .reached handler params final :=
  (dispatchAll_eq_dispatchRules _ _ request.path request router).symm.trans h

theorem reached_extends (h : request.dispatch gate redis = .reached handler params final) :
    final.Extends request := by
  have hKeeps : Keeps (RouteMiddleware.perform gate redis) fun next => next.Extends request :=
    fun _ _ _ _ hPerform hExtends => (perform_extends hPerform).trans hExtends
  exact reached_keeps (P := fun next => next.Extends request) hKeeps (reached_rules h) (.refl request)

/-- The handler is protected by the middleware in all routers. -/
abbrev Behind (middleware : RouteMiddleware) (handler : RouteHandler) : Prop :=
  protects middleware (fun other => decide (other = handler)) [] (rulesOf [] router) = true

/-- What a middleware establishes in front of a handler holds there, if it depends on
nothing that other middlewares change. -/
theorem reached_behind {middleware : RouteMiddleware} (P : HttpRequest → Prop)
    (h : request.dispatch gate redis = .reached handler params final) (hBehind : Behind middleware handler)
    (hEstablishes : Establishes (RouteMiddleware.perform gate redis) middleware P)
    (hLasts : ∀ request next : HttpRequest, next.Extends request → P request → P next) : P final := by
  have hKeeps : Keeps (RouteMiddleware.perform gate redis) P :=
    fun _ _ request next hPerform => hLasts request next (perform_extends hPerform)
  exact protects_sound hEstablishes hKeeps hBehind (fun _ hMem => absurd hMem List.not_mem_nil) (reached_rules h)
    (decide_eq_true rfl)

/-- No middleware changes the headers. -/
theorem reached_headers {middleware : RouteMiddleware} (P : HttpHeaders → Prop)
    (h : request.dispatch gate redis = .reached handler params final) (hBehind : Behind middleware handler)
    (hEstablishes : Establishes (RouteMiddleware.perform gate redis) middleware fun request => P request.headers) :
    P final.headers :=
  reached_behind (fun request => P request.headers) h hBehind hEstablishes fun _ _ hNext hP =>
    hNext.headers.symm ▸ hP

theorem reached_admin (h : request.dispatch gate redis = .reached handler params final)
    (hBehind : Behind .adminAuth handler) : final.headers.IsAdmin := by
  refine reached_headers HttpHeaders.IsAdmin h hBehind fun _ request next hPerform => ?_
  obtain ⟨hNext, hAdmin⟩ := adminAuthMiddleware_ok (mapError_ok hPerform)
  exact hNext.extends.headers.symm ▸ hAdmin

theorem reached_customer (h : request.dispatch gate redis = .reached handler params final)
    (hBehind : Behind .customerAuth handler) : final.IsCustomer := by
  refine reached_behind HttpRequest.IsCustomer h hBehind (fun _ _ _ hPerform => ?_) ?_
  · exact (customerAuthMiddleware_ok (mapError_ok hPerform)).2
  · exact fun _ _ hNext hCustomer => hCustomer.extends hNext

theorem reached_service (h : request.dispatch gate redis = .reached handler params final)
    (hBehind : Behind .internalS2SAuth handler) : gate.authMiddleware final.headers.authorization = .ok () := by
  refine reached_headers (fun headers => gate.authMiddleware headers.authorization = .ok ()) h hBehind
    fun _ request next hPerform => ?_
  obtain ⟨rfl, hPassed⟩ := perform_internalS2SAuth_ok hPerform
  exact hPassed

theorem reached_restaurant (h : request.dispatch gate redis = .reached handler params final)
    (hBehind : Behind .restaurantAdminAuth handler) :
    restaurantAdminAuthMiddleware final.headers.restaurant = .ok () := by
  refine reached_headers (fun headers => restaurantAdminAuthMiddleware headers.restaurant = .ok ()) h hBehind
    fun _ request next hPerform => ?_
  obtain ⟨rfl, hPassed⟩ := perform_restaurantAdminAuth_ok hPerform
  exact hPassed

theorem reached_unanswered (h : request.dispatch gate redis = .reached handler params final)
    (hBehind : Behind .idempotency handler) :
    ∃ key, idempotencyKey final.headers.idempotencyKey = some key ∧ storedAnswer key redis = none := by
  refine reached_headers
    (fun headers => ∃ key, idempotencyKey headers.idempotencyKey = some key ∧ storedAnswer key redis = none)
    h hBehind fun _ request next hPerform => ?_
  obtain ⟨rfl, hKey⟩ := passIdempotency_ok hPerform
  exact hKey

/-- The middlewares on the route of a handler. -/
def RouteHandler.guards : RouteHandler → List RouteMiddleware
  | .getLedger => [.validateRequestQuery .getPlatformMasterLedger]
  | .exportLedgerCsv => [.validateRequestQuery .exportPlatformMasterLedger]
  | .verifyOrderPayment => [.customerAuth, .validateRequestBody .verifyOrderPayment]
  | .getOrderStatus => [.customerAuth, .validateRequestParams .getOrderPaymentStatusParams]
  | .createGatewayOrder => [.validateRequestBody .createOrderPayment]
  | .processRefund => [.validateRequestHeaders, .validateRequestBody .processOrderRefund, .idempotency]
  | .listSubscribers => [.validateRequestQuery .listAdminSubscribers]
  | .getSubscriberDetails => [.validateRequestParams .getAdminSubscriberDetailsParams]
  | .check | .metrics | .getPlans | .createOrder | .verifyPayment | .getStatus | .handleWebhook | .listTransactions
  | .getTransactionDetail | .getSummary => []

/-- The routes have these middlewares, and those that a router uses for all of its routes
are no schemas. -/
theorem router_guards : (rulesOf [] router).all (fun
    | .use _ guard => guard ∈ [RouteMiddleware.adminAuth, .restaurantAdminAuth, .internalS2SAuth]
    | .route _ _ _ guards handler => guards = handler.guards) = true := by decide +kernel

theorem foldlM_parsed {guards : List RouteMiddleware} (user : Option RequestUser)
    (h : guards.foldlM (fun request guard => guard.perform gate redis params request) request = .ok final) :
    guards.foldlM (fun request guard => guard.parsed? gate params request) { request with user } =
      some { final with user } := by
  induction guards generalizing request with
  | nil =>
      cases h
      rfl
  | cons guard guards ih =>
      obtain ⟨next, hNext, hRest⟩ := foldlM_cons_ok h
      rw [List.foldlM_cons, perform_parsed user hNext]
      exact ih hRest

theorem RouteHandler.parsed?_eq (handler : RouteHandler) : handler.parsed? gate params request =
    handler.guards.foldlM (fun request guard => guard.parsed? gate params request) request := by
  cases handler <;> simp [RouteHandler.parsed?, RouteHandler.guards, RouteMiddleware.parsed?]

/-- A handler gets the request that was sent, as the schema in front of it has parsed it,
whoever the user is. -/
theorem reached_parsed (user : Option RequestUser) (h : request.dispatch gate redis = .reached handler params final) :
    handler.parsed? gate params { request with user } = some { final with user } := by
  have hKeeps : ∀ rule ∈ rulesOf [] router, rule.Keeps (RouteMiddleware.perform gate redis)
      fun next => { next with user } = { request with user } := by
    intro rule hRule
    have hGuard := List.all_eq_true.mp router_guards rule hRule
    cases rule with
    | route => trivial
    | use mount guard =>
        intro before next hPerform hBefore
        have hParsed := perform_parsed user hPerform
        rw [hBefore] at hParsed
        have hPlain : guard.parsed? gate [] { request with user } = some { request with user } := by
          have hCases := of_decide_eq_true hGuard
          simp only [List.mem_cons, List.not_mem_nil, or_false] at hCases
          rcases hCases with rfl | rfl | rfl <;> rfl
        exact (Option.some.inj (hPlain.symm.trans hParsed)).symm
  obtain ⟨method, mount, pattern, guards, middle, hRoute, hMiddle, hGuards⟩ :=
    reached_route hKeeps (reached_rules h) rfl
  have hTable := List.all_eq_true.mp router_guards _ hRoute
  have hParsed := foldlM_parsed user hGuards
  rw [hMiddle, of_decide_eq_true hTable, ← RouteHandler.parsed?_eq] at hParsed
  exact hParsed

/-- A body that is missing is read as one without fields, which these schemas refuse. -/
theorem bind_body {Input : Type} (read : Json → Option Input) (hEmpty : read (.obj []) = none) (body : Option Json) :
    read (body.getD (.obj [])) = body.bind read := by
  cases body with
  | none => exact hEmpty
  | some json => rfl

/-- What a schema has stripped or added makes no difference to the call of the handler. -/
theorem call_parsed {next : HttpRequest} (h : handler.parsed? gate params request = some next) :
    handler.call? gate next = handler.call? gate request := by
  cases handler with
  | createGatewayOrder =>
      obtain ⟨output, hOutput, rfl⟩ := Option.map_eq_some_iff.mp h
      exact congrArg (Option.map _) ((createOrderPaymentSchema_parse hOutput).trans (bind_body _ rfl request.body))
  | verifyOrderPayment =>
      obtain ⟨output, hOutput, rfl⟩ := Option.map_eq_some_iff.mp h
      have hRead := verifyOrderPaymentSchema_parse hOutput (request.customerId gate)
      have hBody := bind_body (fun body => verifyOrderPaymentSchema gate body (request.customerId gate)) rfl
      exact congrArg (Option.map _) (hRead.trans (hBody request.body))
  | processRefund =>
      obtain ⟨output, hOutput, rfl⟩ := Option.map_eq_some_iff.mp h
      exact congrArg (Option.map _) ((processOrderRefundSchema_parse hOutput).trans (bind_body _ rfl request.body))
  | createOrder => rw [Option.some.inj h]
  | verifyPayment => rw [Option.some.inj h]
  | handleWebhook => rw [Option.some.inj h]
  | _ => rfl

/-- Whatever the path, the method and the order of the routers, a handler gets the request
that was sent, as the schema in front of the handler has parsed it and with the user of its
header, after the checks in front of the handler. What the schema has stripped or added
makes no difference to the call that the handler makes. -/
theorem handlers_guarded (gate : Gate) (redis : Redis) (request final : HttpRequest) (handler : RouteHandler)
    (params : Params) (h : request.dispatch gate redis = .reached handler params final) :
    handler.parsed? gate params request = some { final with user := request.user } ∧
      (final.user = request.user ∨ ∃ user, final.user = some user ∧ request.headers.userId = some user.userId) ∧
      handler.Admits gate redis final ∧
      handler.call? gate final = handler.call? gate { request with user := final.user } := by
  refine ⟨reached_parsed request.user h, (reached_extends h).user, ?_, call_parsed (reached_parsed final.user h)⟩
  cases handler with
  | createGatewayOrder => exact reached_service h (by decide +kernel)
  | processRefund => exact ⟨reached_service h (by decide +kernel), reached_unanswered h (by decide +kernel)⟩
  | verifyOrderPayment => exact reached_customer h (by decide +kernel)
  | getOrderStatus => exact reached_customer h (by decide +kernel)
  | listTransactions => exact reached_restaurant h (by decide +kernel)
  | getTransactionDetail => exact reached_restaurant h (by decide +kernel)
  | getSummary => exact reached_admin h (by decide +kernel)
  | getLedger => exact reached_admin h (by decide +kernel)
  | exportLedgerCsv => exact reached_admin h (by decide +kernel)
  | listSubscribers => exact reached_admin h (by decide +kernel)
  | getSubscriberDetails => exact reached_admin h (by decide +kernel)
  | _ => trivial

/-- The unknown field is stripped and the currency added. -/
theorem handlers_guarded_gatewayOrder :
    let request := Sample.gatewayOrderRequest [("note", .null)]
    let final := Sample.gatewayOrderRequest [("currency", .str "INR")]
    request.validateRequestBody Sample.gate .createOrderPayment = some final ∧
      (final.user = none ∨ ∃ user, final.user = some user ∧ none = some user.userId) ∧
      Sample.gate.authMiddleware final.headers.authorization = .ok () ∧
      RouteHandler.createGatewayOrder.call? Sample.gate final = RouteHandler.createGatewayOrder.call? Sample.gate request :=
  handlers_guarded Sample.gate ExpiringStore.empty (Sample.gatewayOrderRequest [("note", .null)])
    (Sample.gatewayOrderRequest [("currency", .str "INR")]) .createGatewayOrder [] (by decide +kernel)

end Handlers

end SpotqPayment
