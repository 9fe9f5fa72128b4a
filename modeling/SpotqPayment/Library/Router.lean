import Mathlib.Data.List.Basic
import Mathlib.Tactic.Common

/-! Requests on their way through a tree of routers. The layers of a router are tried in
order: a layer guards all that comes after it, mounts another router below a path, or
holds a route with guards of its own. A tree does what the table of its rules does, and
a check of the table tells which handlers a guard protects. -/
namespace Router

inductive Segment where
  | literal (text : String)
  | param (name : String)
  deriving DecidableEq

abbrev Params := List (String × String)

/-- Literals are read without regard to case; a parameter is not empty. -/
def Segment.read : Segment → String → Option Params
  | .literal text, given => if given.toLower = text.toLower then some [] else none
  | .param name, given => if given = "" then none else some [(name, given)]

/-- A route matches the whole path. -/
def matchPath : List Segment → List String → Option Params
  | [], [] => some []
  | segment :: pattern, given :: path => do
      let first ← segment.read given
      let rest ← matchPath pattern path
      return first ++ rest
  | [], _ :: _ => none
  | _ :: _, [] => none

/-- The path as a router below a mount point sees it. -/
def below : List String → List String → Option (List String)
  | [], path => some path
  | text :: mount, given :: path => if given.toLower = text.toLower then below mount path else none
  | _ :: _, [] => none

theorem below_append (mount inner path : List String) :
    below (mount ++ inner) path = (below mount path).bind (below inner) := by
  induction mount generalizing path with
  | nil => rfl
  | cons text mount ih =>
      cases path with
      | nil => rfl
      | cons given path =>
          rw [List.cons_append, below, below]
          split
          · exact ih path
          · rfl

/-- What is below a mount point is below all points above it. -/
theorem below_outer {outer mount path : List String} (hPrefix : outer <+: mount)
    (hBelow : (below mount path).isSome) : (below outer path).isSome := by
  obtain ⟨inner, rfl⟩ := hPrefix
  rw [below_append] at hBelow
  exact Option.isSome_of_isSome_bind hBelow

inductive Layer (Method Guard Handler : Type) where
  | use (guard : Guard)
  | mount (path : List String) (layers : List (Layer Method Guard Handler))
  | route (method : Method) (pattern : List Segment) (guards : List Guard) (handler : Handler)

/-- A request leaves a router, is answered by a guard, or reaches a handler. -/
inductive Outcome (Early Request Handler : Type) where
  | passed (request : Request)
  | answered (early : Early)
  | reached (handler : Handler) (params : Params) (request : Request)
  deriving DecidableEq

variable {Method Guard Handler Request Early : Type}

/-- A request that has left one layer goes on to the next. -/
def Outcome.andThen (outcome : Outcome Early Request Handler) (next : Request → Outcome Early Request Handler) :
    Outcome Early Request Handler :=
  match outcome with
  | .passed request => next request
  | .answered early => .answered early
  | .reached handler params request => .reached handler params request

theorem Outcome.andThen_assoc (outcome : Outcome Early Request Handler)
    (next last : Request → Outcome Early Request Handler) :
    (outcome.andThen next).andThen last = outcome.andThen fun request => (next request).andThen last := by
  cases outcome <;> rfl

theorem Outcome.andThen_passed (outcome : Outcome Early Request Handler) : outcome.andThen .passed = outcome := by
  cases outcome <;> rfl

/-- A request that is reached after two layers has left the first one or is reached there. -/
theorem Outcome.andThen_reached {outcome : Outcome Early Request Handler}
    {next : Request → Outcome Early Request Handler} {handler : Handler} {params : Params} {final : Request}
    (h : outcome.andThen next = .reached handler params final) :
    outcome = .reached handler params final ∨
      ∃ request, outcome = .passed request ∧ next request = .reached handler params final := by
  cases outcome with
  | passed request => exact Or.inr ⟨request, rfl, h⟩
  | answered early => cases h
  | reached => exact Or.inl h

theorem Outcome.andThen_eq_passed {outcome : Outcome Early Request Handler}
    {next : Request → Outcome Early Request Handler} {final : Request} (h : outcome.andThen next = .passed final) :
    ∃ request, outcome = .passed request ∧ next request = .passed final := by
  cases outcome with
  | passed request => exact ⟨request, rfl, h⟩
  | answered early => cases h
  | reached => cases h

section Dispatch

variable (perform : Guard → Params → Request → Except Early Request) (handles : Method → Bool)

/-- One guard of a router. -/
def checkGuard (guard : Guard) (request : Request) : Outcome Early Request Handler :=
  match perform guard [] request with
  | .error early => .answered early
  | .ok next => .passed next

/-- The guards of a route, one after another, and its handler. -/
def enterRoute (guards : List Guard) (handler : Handler) (request : Request) :
    Option Params → Outcome Early Request Handler
  | none => .passed request
  | some params =>
    match guards.foldlM (fun request guard => perform guard params request) request with
    | .error early => .answered early
    | .ok final => .reached handler params final

mutual

def Layer.dispatch (path : List String) (request : Request) :
    Layer Method Guard Handler → Outcome Early Request Handler
  | .use guard => checkGuard perform guard request
  | .mount mount layers =>
    match below mount path with
    | none => .passed request
    | some rest => dispatchAll rest request layers
  | .route method pattern guards handler =>
      enterRoute perform guards handler request (if handles method then matchPath pattern path else none)

def dispatchAll (path : List String) (request : Request) :
    List (Layer Method Guard Handler) → Outcome Early Request Handler
  | [] => .passed request
  | layer :: layers => (layer.dispatch path request).andThen fun next => dispatchAll path next layers

end

end Dispatch

section Table

/-- A guard for all paths below a mount point, or a route below one. -/
inductive Rule (Method Guard Handler : Type) where
  | use (mount : List String) (guard : Guard)
  | route (method : Method) (mount : List String) (pattern : List Segment) (guards : List Guard) (handler : Handler)

mutual

/-- What a layer of a router at a mount point adds to the table. -/
def Layer.rules (mount : List String) : Layer Method Guard Handler → List (Rule Method Guard Handler)
  | .use guard => [.use mount guard]
  | .mount path layers => rulesOf (mount ++ path) layers
  | .route method pattern guards handler => [.route method mount pattern guards handler]

def rulesOf (mount : List String) : List (Layer Method Guard Handler) → List (Rule Method Guard Handler)
  | [] => []
  | layer :: layers => layer.rules mount ++ rulesOf mount layers

end

variable (perform : Guard → Params → Request → Except Early Request) (handles : Method → Bool)

def Rule.dispatch (path : List String) (request : Request) :
    Rule Method Guard Handler → Outcome Early Request Handler
  | .use mount guard => if (below mount path).isSome then checkGuard perform guard request else .passed request
  | .route method mount pattern guards handler =>
      enterRoute perform guards handler request
        (if handles method then (below mount path).bind (matchPath pattern) else none)

def dispatchRules (path : List String) :
    List (Rule Method Guard Handler) → Request → Outcome Early Request Handler
  | [], request => .passed request
  | rule :: rules, request => (rule.dispatch perform handles path request).andThen (dispatchRules path rules)

theorem dispatchRules_append (path : List String) (first rest : List (Rule Method Guard Handler))
    (request : Request) :
    dispatchRules perform handles path (first ++ rest) request =
      (dispatchRules perform handles path first request).andThen (dispatchRules perform handles path rest) := by
  induction first generalizing request with
  | nil => rfl
  | cons rule first ih =>
      rw [List.cons_append, dispatchRules, dispatchRules, Outcome.andThen_assoc]
      exact congrArg _ (funext ih)

theorem dispatchRules_singleton (path : List String) (rule : Rule Method Guard Handler) (request : Request) :
    dispatchRules perform handles path [rule] request = rule.dispatch perform handles path request :=
  Outcome.andThen_passed _

mutual

/-- The rules of a layer do to a path what the layer does to the part below its mount point. -/
theorem Layer.dispatch_rules (mount path : List String) (request : Request) :
    (layer : Layer Method Guard Handler) →
    dispatchRules perform handles path (layer.rules mount) request =
      match below mount path with
      | none => .passed request
      | some rest => layer.dispatch perform handles rest request
  | .use guard => by
      rw [Layer.rules, dispatchRules_singleton, Rule.dispatch]
      cases below mount path <;> rfl
  | .mount inner layers => by
      rw [Layer.rules, dispatch_rulesOf (mount ++ inner) path request layers, below_append]
      cases below mount path <;> rfl
  | .route method pattern guards handler => by
      rw [Layer.rules, dispatchRules_singleton, Rule.dispatch]
      cases below mount path with
      | none => cases handles method <;> rfl
      | some rest => rfl

theorem dispatch_rulesOf (mount path : List String) (request : Request) :
    (layers : List (Layer Method Guard Handler)) →
    dispatchRules perform handles path (rulesOf mount layers) request =
      match below mount path with
      | none => .passed request
      | some rest => dispatchAll perform handles rest request layers
  | [] => by
      rw [rulesOf, dispatchRules]
      cases below mount path <;> rfl
  | layer :: layers => by
      rw [rulesOf, dispatchRules_append, Layer.dispatch_rules mount path request layer]
      have hRest := fun next => dispatch_rulesOf mount path next layers
      cases hBelow : below mount path with
      | none =>
          rw [hBelow] at hRest
          exact hRest request
      | some rest =>
          rw [hBelow] at hRest
          exact congrArg _ (funext hRest)

end

/-- A tree of routers and its table dispatch every request alike. -/
theorem dispatchAll_eq_dispatchRules (path : List String) (request : Request)
    (layers : List (Layer Method Guard Handler)) :
    dispatchAll perform handles path request layers =
      dispatchRules perform handles path (rulesOf [] layers) request :=
  (dispatch_rulesOf perform handles [] path request layers).symm

end Table

section Guards

/-- No guard spoils the property of a request. -/
def Keeps (perform : Guard → Params → Request → Except Early Request) (P : Request → Prop) : Prop :=
  ∀ guard params request next, perform guard params request = .ok next → P request → P next

/-- A rule spoils the property of no request that it lets pass. -/
def Rule.Keeps (perform : Guard → Params → Request → Except Early Request) (P : Request → Prop) :
    Rule Method Guard Handler → Prop
  | .use _ guard => ∀ request next, perform guard [] request = .ok next → P request → P next
  | .route .. => True

/-- A request that the guard lets pass has the property. -/
def Establishes (perform : Guard → Params → Request → Except Early Request) (guard : Guard)
    (P : Request → Prop) : Prop :=
  ∀ params request next, perform guard params request = .ok next → P next

variable {perform : Guard → Params → Request → Except Early Request} {handles : Method → Bool}
variable {P : Request → Prop} {path : List String} {request final : Request} {handler : Handler} {params : Params}

/-- Guards that let a request pass do so one after another. -/
theorem foldlM_cons_ok {guard : Guard} {guards : List Guard}
    (h : (guard :: guards).foldlM (fun request guard => perform guard params request) request = .ok final) :
    ∃ next, perform guard params request = .ok next ∧
      guards.foldlM (fun request guard => perform guard params request) next = .ok final := by
  rw [List.foldlM_cons] at h
  cases hNext : perform guard params request with
  | error early =>
      rw [hNext] at h
      cases h
  | ok next =>
      rw [hNext] at h
      exact ⟨next, rfl, h⟩

/-- What every guard keeps, a handler finds. -/
theorem foldlM_keeps (hKeeps : Keeps perform P)
    {guards : List Guard} (h : guards.foldlM (fun request guard => perform guard params request) request = .ok final)
    (hP : P request) : P final := by
  induction guards generalizing request with
  | nil =>
      cases h
      exact hP
  | cons guard guards ih =>
      obtain ⟨next, hNext, hRest⟩ := foldlM_cons_ok h
      exact ih hRest (hKeeps guard params request next hNext hP)

theorem foldlM_establishes {guard : Guard} (hEstablishes : Establishes perform guard P)
    (hKeeps : Keeps perform P)
    {guards : List Guard} (h : guards.foldlM (fun request guard => perform guard params request) request = .ok final)
    (hMem : guard ∈ guards) : P final := by
  induction guards generalizing request with
  | nil => cases hMem
  | cons first guards ih =>
      obtain ⟨next, hNext, hRest⟩ := foldlM_cons_ok h
      rcases List.mem_cons.mp hMem with rfl | hMem
      · exact foldlM_keeps hKeeps hRest (hEstablishes params request next hNext)
      · exact ih hRest hMem

theorem enterRoute_reached {guards : List Guard} {target : Handler} {found? : Option Params}
    (h : enterRoute perform guards target request found? = .reached handler params final) :
    target = handler ∧ found? = some params ∧
      guards.foldlM (fun request guard => perform guard params request) request = .ok final := by
  cases found? with
  | none => cases h
  | some found =>
      rw [enterRoute] at h
      cases hGuards : guards.foldlM (fun request guard => perform guard found request) request with
      | error early =>
          rw [hGuards] at h
          cases h
      | ok last =>
          rw [hGuards] at h
          cases h
          exact ⟨rfl, rfl, hGuards⟩

/-- A route that does not take a request leaves it as it is. -/
theorem enterRoute_passed {guards : List Guard} {found? : Option Params}
    (h : enterRoute perform guards handler request found? = .passed final) : final = request := by
  cases found? with
  | none =>
      cases h
      rfl
  | some found =>
      rw [enterRoute] at h
      cases hGuards : guards.foldlM (fun request guard => perform guard found request) request with
      | error early =>
          rw [hGuards] at h
          cases h
      | ok last =>
          rw [hGuards] at h
          cases h

theorem checkGuard_passed {guard : Guard}
    (h : (checkGuard perform guard request : Outcome Early Request Handler) = .passed final) :
    perform guard [] request = .ok final := by
  rw [checkGuard] at h
  cases hNext : perform guard [] request with
  | error early =>
      rw [hNext] at h
      cases h
  | ok next =>
      rw [hNext] at h
      cases h
      rfl

theorem checkGuard_not_reached {guard : Guard} :
    checkGuard perform guard request ≠ .reached handler params final := by
  intro h
  rw [checkGuard] at h
  cases hNext : perform guard [] request with
  | error early =>
      rw [hNext] at h
      cases h
  | ok next =>
      rw [hNext] at h
      cases h

theorem Keeps.rule (h : Keeps perform P) (rule : Rule Method Guard Handler) : rule.Keeps perform P := by
  cases rule with
  | use mount guard => exact fun request next => h guard [] request next
  | route => trivial

theorem Rule.passed_keeps {rule : Rule Method Guard Handler} (hKeeps : rule.Keeps perform P)
    (h : rule.dispatch perform handles path request = .passed final) (hP : P request) : P final := by
  cases rule with
  | use mount guard =>
      rw [Rule.dispatch] at h
      split at h
      · exact hKeeps request final (checkGuard_passed h) hP
      · cases h
        exact hP
  | route method mount pattern guards target => exact enterRoute_passed h ▸ hP

/-- Only routes lead to handlers. -/
theorem Rule.reached {rule : Rule Method Guard Handler}
    (h : rule.dispatch perform handles path request = .reached handler params final) :
    ∃ method mount pattern guards, rule = .route method mount pattern guards handler ∧ handles method = true ∧
      (below mount path).bind (matchPath pattern) = some params ∧
        guards.foldlM (fun request guard => perform guard params request) request = .ok final := by
  cases rule with
  | use mount guard =>
      rw [Rule.dispatch] at h
      split at h
      · exact absurd h checkGuard_not_reached
      · cases h
  | route method mount pattern guards target =>
      obtain ⟨rfl, hFound, hGuards⟩ := enterRoute_reached h
      cases hMethod : handles method with
      | false =>
          rw [hMethod] at hFound
          cases hFound
      | true =>
          rw [hMethod] at hFound
          exact ⟨method, mount, pattern, guards, rfl, hMethod, hFound, hGuards⟩

/-- A handler is reached on one of the routes, by a request that passed all rules before it. -/
theorem dispatchRules_reached {rules : List (Rule Method Guard Handler)}
    (h : dispatchRules perform handles path rules request = .reached handler params final) :
    ∃ before rule after middle, rules = before ++ rule :: after ∧
      dispatchRules perform handles path before request = .passed middle ∧
        rule.dispatch perform handles path middle = .reached handler params final := by
  induction rules generalizing request with
  | nil => cases h
  | cons rule rules ih =>
      rcases Outcome.andThen_reached h with hHere | ⟨next, hNext, hLater⟩
      · exact ⟨[], rule, rules, request, rfl, rfl, hHere⟩
      · obtain ⟨before, last, after, middle, rfl, hBefore, hLast⟩ := ih hLater
        refine ⟨rule :: before, last, after, middle, rfl, ?_, hLast⟩
        rw [dispatchRules, hNext]
        exact hBefore

theorem dispatchRules_keeps {rules : List (Rule Method Guard Handler)} (hKeeps : ∀ rule ∈ rules, rule.Keeps perform P)
    (h : dispatchRules perform handles path rules request = .passed final) (hP : P request) : P final := by
  induction rules generalizing request with
  | nil =>
      cases h
      exact hP
  | cons rule rules ih =>
      obtain ⟨next, hRule, hRest⟩ := Outcome.andThen_eq_passed h
      exact ih (fun rule hMem => hKeeps rule (List.mem_cons_of_mem _ hMem)) hRest
        (Rule.passed_keeps (hKeeps rule List.mem_cons_self) hRule hP)

/-- What the rules keep of a request, the route of the handler finds. -/
theorem reached_route {rules : List (Rule Method Guard Handler)} (hKeeps : ∀ rule ∈ rules, rule.Keeps perform P)
    (h : dispatchRules perform handles path rules request = .reached handler params final) (hP : P request) :
    ∃ method mount pattern guards middle, .route method mount pattern guards handler ∈ rules ∧ P middle ∧
      guards.foldlM (fun request guard => perform guard params request) middle = .ok final := by
  obtain ⟨before, rule, after, middle, rfl, hBefore, hRule⟩ := dispatchRules_reached h
  obtain ⟨method, mount, pattern, guards, rfl, _, _, hGuards⟩ := Rule.reached hRule
  refine ⟨method, mount, pattern, guards, middle, List.mem_append_right _ List.mem_cons_self, ?_, hGuards⟩
  exact dispatchRules_keeps (fun rule hMem => hKeeps rule (List.mem_append_left _ hMem)) hBefore hP

/-- What every guard keeps of a request, a handler finds. -/
theorem reached_keeps (hKeeps : Keeps perform P)
    {rules : List (Rule Method Guard Handler)}
    (h : dispatchRules perform handles path rules request = .reached handler params final) (hP : P request) :
    P final := by
  obtain ⟨_, _, _, guards, middle, _, hMiddle, hGuards⟩ := reached_route (fun rule _ => hKeeps.rule rule) h hP
  exact foldlM_keeps hKeeps hGuards hMiddle

variable [DecidableEq Guard]

/-- The wanted handlers are reached only behind the guard: it stands on the route itself,
or it was used before at a mount point above the route. -/
def protects (guard : Guard) (wanted : Handler → Bool) :
    List (List String) → List (Rule Method Guard Handler) → Bool
  | _, [] => true
  | seen, .use mount other :: rules => protects guard wanted (if other = guard then mount :: seen else seen) rules
  | seen, .route _ mount _ guards handler :: rules =>
      (!wanted handler || guards.contains guard || seen.any fun outer => outer.isPrefixOf mount) &&
        protects guard wanted seen rules

/-- The check is sound: what the guard establishes and all guards keep, its handlers find. -/
theorem protects_sound {guard : Guard} {wanted : Handler → Bool}
    (hEstablishes : Establishes perform guard P) (hKeeps : Keeps perform P)
    {seen : List (List String)} {rules : List (Rule Method Guard Handler)}
    (h : protects guard wanted seen rules = true)
    (hSeen : ∀ mount ∈ seen, (below mount path).isSome → P request)
    (hReached : dispatchRules perform handles path rules request = .reached handler params final)
    (hWanted : wanted handler = true) : P final := by
  induction rules generalizing seen request with
  | nil => cases hReached
  | cons rule rules ih =>
      rcases Outcome.andThen_reached hReached with hHere | ⟨next, hNext, hLater⟩
      · obtain ⟨method, mount, pattern, guards, rfl, _, hFound, hGuards⟩ := Rule.reached hHere
        simp only [protects, Bool.and_eq_true, Bool.or_eq_true, hWanted, Bool.not_true, Bool.false_eq_true, false_or,
          List.contains_iff_mem, List.any_eq_true] at h
        rcases h.1 with hMem | ⟨outer, hOuter, hPrefix⟩
        · exact foldlM_establishes hEstablishes hKeeps hGuards hMem
        · have hBelow : (below mount path).isSome :=
            Option.isSome_of_isSome_bind (Option.isSome_iff_exists.mpr ⟨params, hFound⟩)
          have hPrefix := List.isPrefixOf_iff_prefix.mp hPrefix
          exact foldlM_keeps hKeeps hGuards (hSeen outer hOuter (below_outer hPrefix hBelow))
      · cases rule with
        | use mount other =>
            refine ih h (fun outer hOuter hBelow => ?_) hLater
            have hOld : outer ∈ seen → P next := fun hMem =>
              Rule.passed_keeps (hKeeps.rule _) hNext (hSeen outer hMem hBelow)
            split at hOuter
            · rename_i hSame
              rcases List.mem_cons.mp hOuter with rfl | hMem
              · rw [Rule.dispatch, if_pos hBelow] at hNext
                exact hEstablishes [] request next (hSame ▸ checkGuard_passed hNext)
              · exact hOld hMem
            · exact hOld hOuter
        | route method mount pattern guards target =>
            rw [protects, Bool.and_eq_true] at h
            refine ih h.2 (fun outer hOuter hBelow => ?_) hLater
            exact Rule.passed_keeps (hKeeps.rule _) hNext (hSeen outer hOuter hBelow)

end Guards

end Router
