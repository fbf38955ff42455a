import SorobanGate.Basic

/-!
# API key extraction

A key is looked for in the `Authorization` header, then in the `X-API-Key`
header, then in the query.  A header value that is not readable text ends the
search.
-/

namespace SorobanGate

/-- What the middlewares read of a request. -/
structure HttpRequest where
  headers : HeaderMap
  query : Option String
  deriving DecidableEq, Repr

/-- `HeaderValue::to_str`: a value is text when its bytes are visible ASCII
characters, blanks or tabs. -/
def toStr (value : Bytes) : Option String :=
  if value.all fun byte => (32 ≤ byte && byte < 127) || byte == 9 then
    some (String.ofList (value.map fun byte => Char.ofNat byte.toNat))
  else none

/-- `str::strip_prefix`. -/
def stripPrefix (pattern text : String) : Option String :=
  if pattern.toList <+: text.toList then
    some (String.ofList (text.toList.drop pattern.toList.length))
  else none

/-- The key that a request presents; `parseQuery` decodes the pairs of a query. -/
def extractApiKey (parseQuery : String → List (String × String)) (request : HttpRequest) :
    Option String :=
  let fromQuery := request.query.bind fun query =>
    ((parseQuery query).find? fun pair => pair.1 = "api_key" ∧ pair.2 ≠ "").map Prod.snd
  let fromHeader :=
    match request.headers.lookup "x-api-key" with
    | some value => (toStr value).bind fun text => if text = "" then fromQuery else some text
    | none => fromQuery
  match request.headers.lookup "authorization" with
  | some value => (toStr value).bind fun text =>
      match stripPrefix "Bearer " text with
      | some key => if key = "" then fromHeader else some key
      | none => fromHeader
  | none => fromHeader

/-! ## The first usable source -/

section Sources

variable (parseQuery : String → List (String × String)) (request : HttpRequest)

/-- What follows `Bearer ` in a readable `Authorization` value, unless it is empty. -/
def bearerKey : Option String :=
  (request.headers.lookup "authorization").bind fun value =>
    (toStr value).bind fun text => (stripPrefix "Bearer " text).filter (· ≠ "")

/-- A readable `X-API-Key` value that is not empty. -/
def headerKey : Option String :=
  (request.headers.lookup "x-api-key").bind fun value => (toStr value).filter (· ≠ "")

/-- The first `api_key` parameter that is not empty. -/
def queryKey : Option String :=
  request.query.bind fun query =>
    ((parseQuery query).find? fun pair => pair.1 = "api_key" ∧ pair.2 ≠ "").map Prod.snd

/-- The key that the first usable source gives. -/
def firstUsable : Option String :=
  bearerKey request <|> headerKey request <|> queryKey parseQuery request

/-- The extraction takes the first usable source, and finds nothing exactly when there
is none. -/
def TakesFirst : Prop :=
  extractApiKey parseQuery request = firstUsable parseQuery request ∧
    (extractApiKey parseQuery request = none ↔
      bearerKey request = none ∧ headerKey request = none ∧ queryKey parseQuery request = none)

/-- A header is there but its value is not text. -/
def Unreadable (name : String) : Prop :=
  ∃ value, request.headers.lookup name = some value ∧ toStr value = none

/-- No usable source comes after an unreadable header. -/
structure NothingHidden : Prop where
  byAuthorization : Unreadable request "authorization" →
    headerKey request = none ∧ queryKey parseQuery request = none
  byApiKey : bearerKey request = none → Unreadable request "x-api-key" →
    queryKey parseQuery request = none

variable {parseQuery request}

theorem firstUsable_eq_none_iff :
    firstUsable parseQuery request = none ↔
      bearerKey request = none ∧ headerKey request = none ∧
        queryKey parseQuery request = none := by
  unfold firstUsable
  cases bearerKey request <;> cases headerKey request <;> simp

/-- The search from the `X-API-Key` header on. -/
def laterKey (parseQuery : String → List (String × String)) (request : HttpRequest) :
    Option String :=
  match request.headers.lookup "x-api-key" with
  | some value =>
      (toStr value).bind fun text =>
        if text = "" then queryKey parseQuery request else some text
  | none => queryKey parseQuery request

/-- An unreadable `Authorization` value ends the search. -/
theorem extractApiKey_of_unreadable (parseQuery : String → List (String × String))
    (unreadable : Unreadable request "authorization") :
    extractApiKey parseQuery request = none ∧ bearerKey request = none := by
  obtain ⟨value, found, notText⟩ := unreadable
  simp [extractApiKey, bearerKey, found, notText]

theorem extractApiKey_of_readable (readable : ¬ Unreadable request "authorization") :
    extractApiKey parseQuery request = (bearerKey request <|> laterKey parseQuery request) := by
  unfold bearerKey
  change (match request.headers.lookup "authorization" with
    | some value => (toStr value).bind fun text =>
        match stripPrefix "Bearer " text with
        | some key => if key = "" then laterKey parseQuery request else some key
        | none => laterKey parseQuery request
    | none => laterKey parseQuery request) = _
  cases found : request.headers.lookup "authorization" with
  | none => simp
  | some value =>
      cases isText : toStr value with
      | none => exact absurd ⟨value, found, isText⟩ readable
      | some text =>
          cases bearer : stripPrefix "Bearer " text with
          | none => simp [isText, bearer]
          | some key => by_cases empty : key = "" <;> simp [isText, bearer, empty, Option.filter]

theorem laterKey_of_unreadable (parseQuery : String → List (String × String))
    (unreadable : Unreadable request "x-api-key") :
    laterKey parseQuery request = none ∧ headerKey request = none := by
  obtain ⟨value, found, notText⟩ := unreadable
  simp [laterKey, headerKey, found, notText]

theorem laterKey_of_readable (readable : ¬ Unreadable request "x-api-key") :
    laterKey parseQuery request = (headerKey request <|> queryKey parseQuery request) := by
  unfold laterKey headerKey
  cases found : request.headers.lookup "x-api-key" with
  | none => simp
  | some value =>
      cases isText : toStr value with
      | none => exact absurd ⟨value, found, isText⟩ readable
      | some text => by_cases empty : text = "" <;> simp [isText, empty, Option.filter]

/-- Key extraction takes the first usable source if and only if no usable source comes
after an unreadable header. -/
theorem takesFirst_iff (parseQuery : String → List (String × String)) (request : HttpRequest) :
    TakesFirst parseQuery request ↔ NothingHidden parseQuery request := by
  have exact : TakesFirst parseQuery request ↔
      extractApiKey parseQuery request = firstUsable parseQuery request := by
    constructor
    · exact And.left
    · intro same
      exact ⟨same, same ▸ firstUsable_eq_none_iff⟩
  rw [exact]
  by_cases unreadable : Unreadable request "authorization"
  · obtain ⟨nothing, noBearer⟩ := extractApiKey_of_unreadable parseQuery unreadable
    rw [nothing, eq_comm, firstUsable_eq_none_iff]
    constructor
    · rintro ⟨-, noHeader, noQuery⟩
      exact ⟨fun _ => ⟨noHeader, noQuery⟩, fun _ _ => noQuery⟩
    · intro hidden
      exact ⟨noBearer, hidden.byAuthorization unreadable⟩
  · rw [extractApiKey_of_readable unreadable]
    by_cases unreadableKey : Unreadable request "x-api-key"
    · obtain ⟨nothing, noHeader⟩ := laterKey_of_unreadable parseQuery unreadableKey
      have hidden_iff : NothingHidden parseQuery request ↔
          (bearerKey request = none → queryKey parseQuery request = none) :=
        ⟨fun hidden noBearer => hidden.byApiKey noBearer unreadableKey,
          fun noQuery => ⟨fun hides => absurd hides unreadable, fun noBearer _ => noQuery noBearer⟩⟩
      rw [hidden_iff, firstUsable, nothing, noHeader]
      cases bearerKey request <;> simp [eq_comm]
    · rw [laterKey_of_readable unreadableKey]
      exact ⟨fun _ => ⟨fun hides => absurd hides unreadable,
        fun _ hides => absurd hides unreadableKey⟩, fun _ => rfl⟩

end Sources

/-- An `Authorization` value with a byte that is not text, in front of a usable header. -/
def unreadableFirst : HttpRequest where
  headers :=
    [("authorization", asBytes "Bearer " ++ [255]), ("x-api-key", asBytes "sk_header")]
  query := none

/-- The usable header is not taken. -/
theorem unreadable_hides_key :
    firstUsable (fun _ => []) unreadableFirst = some "sk_header" ∧
      extractApiKey (fun _ => []) unreadableFirst = none ∧
      ¬ TakesFirst (fun _ => []) unreadableFirst := by
  have usable : firstUsable (fun _ => []) unreadableFirst = some "sk_header" := by decide
  have nothing : extractApiKey (fun _ => []) unreadableFirst = none := by decide
  refine ⟨usable, nothing, fun takes => ?_⟩
  have same := takes.1
  rw [usable, nothing] at same
  cases same

end SorobanGate
