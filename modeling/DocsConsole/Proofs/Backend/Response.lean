import DocsConsole.Backend.Client

/-!
# Responses of the backend

A call succeeds with what the body of the response says, unless the status is that of an
error.  A status of an error is one from 400 to 599, and a body is read in the form that
belongs to the call.  The other statuses outside 200 to 299 say neither, and then the body
decides alone.
-/

namespace DocsConsole

namespace JsonText

theorem text?_eq_some_iff {text : JsonText} {value : String} :
    text.text? = some value ↔ text = .string (some value) := by
  cases text <;> simp [text?]

theorem bool?_eq_some_iff {text : JsonText} {value : Bool} :
    text.bool? = some value ↔ text = .bool value := by
  cases text <;> simp [bool?]

def ofStrings (values : List String) : JsonText :=
  .array (values.map (.string ∘ some))

theorem mapM_text?_eq_some_iff {items : List JsonText} {values : List String} :
    items.mapM text? = some values ↔ items = values.map (.string ∘ some) := by
  induction items generalizing values with
  | nil => cases values <;> simp
  | cons item items induction =>
      simp only [List.mapM_cons, Option.bind_eq_bind, Option.bind_eq_some_iff, Option.pure_def,
        Option.some.injEq, text?_eq_some_iff, induction]
      constructor
      · rintro ⟨value, rfl, values, rfl, rfl⟩
        rfl
      · intro equal
        cases values with
        | nil => contradiction
        | cons value values =>
            obtain ⟨rfl, rfl⟩ := List.cons.inj equal
            exact ⟨value, rfl, values, rfl, rfl⟩

theorem list_text?_eq_some_iff {text : JsonText} {values : List String} :
    list text? text = some values ↔ text = ofStrings values := by
  cases text <;> simp [list, ofStrings, mapM_text?_eq_some_iff]

/-- A field that may tell a text: it does not if it is missing or null. -/
inductive Tells : Option JsonText → Option String → Prop where
  | missing : Tells none none
  | null : Tells (some .null) none
  | string (value : String) : Tells (some (.string (some value))) (some value)

theorem field?_text?_eq_some_iff {field : Option JsonText} {value : Option String} :
    field? text? field = some value ↔ Tells field value := by
  constructor
  · intro reads
    cases field with
    | none =>
        cases reads
        exact .missing
    | some text =>
        cases text with
        | null =>
            cases reads
            exact .null
        | string read =>
            obtain ⟨value, found, rfl⟩ := Option.map_eq_some_iff.mp reads
            cases text?_eq_some_iff.mp found
            exact .string value
        | _ => contradiction
  · intro tells
    cases tells <;> rfl

end JsonText

namespace Backend

/-! ## What a body says -/

/-- What a text says in answer to a call. -/
inductive Answer.Reads : Call → JsonText → Answer → Prop where
  | content (request : DocsRequest) {text : JsonText} {content : String}
      (fields : text.fields? ["content"] = some [some (.string (some content))]) :
      Reads (.generateDocs request) text (.content content)
  | report (file : UploadedFile) {text : JsonText} {report : QualityReport}
      (reads : QualityReport.ofJson? text = some report) :
      Reads (.analyzeQuality file) text (.report report)
  | connection (token : String) {text : JsonText} {success : Bool} {error : Option JsonText}
      {message : Option String}
      (fields : text.fields? ["success", "error"] = some [some (.bool success), error])
      (tells : JsonText.Tells error message) :
      Reads (.connect token) text (.connection success message)
  | repositories (token : String) (names : List String) :
      Reads (.listRepositories token) (.ofStrings names) (.names names)
  | branches (token repository : String) (names : List String) :
      Reads (.listBranches token repository) (.ofStrings names) (.names names)
  | pullRequest (token : String) (draft : PullRequestDraft) {text : JsonText} {success : Bool}
      {url error : Option JsonText} {address message : Option String}
      (fields : text.fields? ["success", "pr_url", "error"] =
        some [some (.bool success), url, error])
      (tellsAddress : JsonText.Tells url address) (tells : JsonText.Tells error message) :
      Reads (.openPullRequest token draft) text (.pullRequest success address message)

namespace Answer

variable {text : JsonText} {answer : Answer}

theorem reads_of_ofJson? {call : Call} (parsed : ofJson? call text = some answer) :
    Reads call text answer := by
  cases call with
  | generateDocs request =>
      unfold ofJson? readContent? at parsed
      dsimp only at parsed
      split at parsed
      case h_1 member fields =>
        obtain ⟨content, found, rfl⟩ := Option.map_eq_some_iff.mp parsed
        rw [JsonText.text?_eq_some_iff.mp found] at fields
        exact .content request fields
      case h_2 => contradiction
  | analyzeQuality file =>
      obtain ⟨report, found, rfl⟩ := Option.map_eq_some_iff.mp parsed
      exact .report file found
  | connect token =>
      unfold ofJson? readConnection? at parsed
      dsimp only at parsed
      split at parsed
      case h_1 member error fields =>
        simp only [Option.bind_eq_bind, Option.bind_eq_some_iff] at parsed
        obtain ⟨success, found, message, told, rest⟩ := parsed
        cases rest
        rw [JsonText.bool?_eq_some_iff.mp found] at fields
        exact .connection token fields (JsonText.field?_text?_eq_some_iff.mp told)
      case h_2 => contradiction
  | listRepositories token =>
      obtain ⟨names, found, rfl⟩ := Option.map_eq_some_iff.mp parsed
      rw [JsonText.list_text?_eq_some_iff.mp found]
      exact .repositories token names
  | listBranches token repository =>
      obtain ⟨names, found, rfl⟩ := Option.map_eq_some_iff.mp parsed
      rw [JsonText.list_text?_eq_some_iff.mp found]
      exact .branches token repository names
  | openPullRequest token draft =>
      unfold ofJson? readPullRequest? at parsed
      dsimp only at parsed
      split at parsed
      case h_1 member url error fields =>
        simp only [Option.bind_eq_bind, Option.bind_eq_some_iff] at parsed
        obtain ⟨success, found, address, toldAddress, message, told, rest⟩ := parsed
        cases rest
        rw [JsonText.bool?_eq_some_iff.mp found] at fields
        exact .pullRequest token draft fields (JsonText.field?_text?_eq_some_iff.mp toldAddress)
          (JsonText.field?_text?_eq_some_iff.mp told)
      case h_2 => contradiction

theorem ofJson?_of_reads {call : Call} (reads : Reads call text answer) :
    ofJson? call text = some answer := by
  cases reads with
  | content request fields => simp [ofJson?, readContent?, fields, JsonText.text?]
  | report file found => simp [ofJson?, found]
  | connection token fields tells =>
      have told := JsonText.field?_text?_eq_some_iff.mpr tells
      simp [ofJson?, readConnection?, fields, JsonText.bool?, told]
  | repositories token names =>
      have found := JsonText.list_text?_eq_some_iff.mpr (Eq.refl (JsonText.ofStrings names))
      simp [ofJson?, found]
  | branches token repository names =>
      have found := JsonText.list_text?_eq_some_iff.mpr (Eq.refl (JsonText.ofStrings names))
      simp [ofJson?, found]
  | pullRequest token draft fields tellsAddress tells =>
      have toldAddress := JsonText.field?_text?_eq_some_iff.mpr tellsAddress
      have told := JsonText.field?_text?_eq_some_iff.mpr tells
      simp [ofJson?, readPullRequest?, fields, JsonText.bool?, toldAddress, told]

/-- A body is the text of an answer to a call. -/
def Decodes (call : Call) (body : ByteArray) (answer : Answer) : Prop :=
  ∃ text, JsonText.ofSource? (Utf8.decode body) = some text ∧ Reads call text answer

theorem read?_eq_some_iff {call : Call} {body : ByteArray} :
    read? call body = some answer ↔ Decodes call body answer := by
  unfold read? Decodes
  rw [Option.bind_eq_some_iff]
  constructor
  · rintro ⟨text, found, reads⟩
    exact ⟨text, found, reads_of_ofJson? reads⟩
  · rintro ⟨text, found, reads⟩
    exact ⟨text, found, ofJson?_of_reads reads⟩

end Answer

/-! ## What a status says -/

namespace HttpResponse

def IsSuccess (response : HttpResponse) : Prop :=
  200 ≤ response.status ∧ response.status < 300

/-- The status is that of an error of the client or of the server. -/
def IsError (response : HttpResponse) : Prop :=
  400 ≤ response.status ∧ response.status < 600

/-- The status is neither that of a success nor that of an error. -/
def IsNeither (response : HttpResponse) : Prop :=
  response.status < 200 ∨ (300 ≤ response.status ∧ response.status < 400) ∨ 600 ≤ response.status

variable {response : HttpResponse}

theorem isNeither_iff : response.IsNeither ↔ ¬response.IsSuccess ∧ ¬response.IsError := by
  unfold IsNeither IsSuccess IsError
  omega

end HttpResponse

namespace Client

variable {client : Client} {network : Network} {call : Call} {response : HttpResponse}
  {answer : Answer}

theorem receive_of_error (error : response.IsError) :
    receive call response = .error (.status response.status) :=
  if_pos error

theorem receive_eq_ok_iff :
    receive call response = .ok answer ↔
      ¬response.IsError ∧ Answer.Decodes call response.body answer := by
  rw [← Answer.read?_eq_some_iff]
  unfold receive
  split
  case isTrue error =>
    have error : response.IsError := error
    simp [error]
  case isFalse fine =>
    have fine : ¬response.IsError := fine
    cases Answer.read? call response.body <;> simp [fine]

/-- The call is sent and the network gives a response to it. -/
def Receives (client : Client) (network : Network) (call : Call) (response : HttpResponse) :
    Prop :=
  ∃ request, client.request call = .ok request ∧ network request = some response

theorem perform_of_receives (receives : client.Receives network call response) :
    client.perform network call = receive call response := by
  obtain ⟨request, sent, given⟩ := receives
  simp [perform, sent, given]

theorem receives_of_perform_eq_ok (succeeds : client.perform network call = .ok answer) :
    ∃ response, client.Receives network call response := by
  unfold perform at succeeds
  split at succeeds
  case h_1 => contradiction
  case h_2 request sent =>
    split at succeeds
    case h_1 => contradiction
    case h_2 response given => exact ⟨response, request, sent, given⟩

/-- A call succeeds exactly with what the body of its response says, unless the status is that
of an error, with which it fails.  So a success comes with the status of one unless the status
is neither and the body says something. -/
theorem perform_succeeds (client : Client) (network : Network) (call : Call) :
    (∀ answer, client.perform network call = .ok answer ↔
      ∃ response, client.Receives network call response ∧ ¬response.IsError ∧
        Answer.Decodes call response.body answer) ∧
    ∀ response, client.Receives network call response →
      (response.IsError →
        client.perform network call = .error (.status response.status)) ∧
      ((∃ answer, client.perform network call = .ok answer) ∧ ¬response.IsSuccess ↔
        response.IsNeither ∧ ∃ answer, Answer.Decodes call response.body answer) := by
  constructor
  · intro answer
    constructor
    · intro succeeds
      obtain ⟨response, receives⟩ := receives_of_perform_eq_ok succeeds
      rw [perform_of_receives receives, receive_eq_ok_iff] at succeeds
      exact ⟨response, receives, succeeds⟩
    · rintro ⟨response, receives, decodes⟩
      rw [perform_of_receives receives, receive_eq_ok_iff]
      exact decodes
  · intro response receives
    rw [perform_of_receives receives]
    constructor
    · exact receive_of_error
    · simp only [receive_eq_ok_iff, HttpResponse.isNeither_iff]
      constructor
      · rintro ⟨⟨answer, fine, decodes⟩, unsuccessful⟩
        exact ⟨⟨unsuccessful, fine⟩, answer, decodes⟩
      · rintro ⟨⟨unsuccessful, fine⟩, answer, decodes⟩
        exact ⟨⟨answer, fine, decodes⟩, unsuccessful⟩

end Client

/-! ## A list of one repository -/

/-- A network that gives the same response to each request. -/
def Network.constant (response : HttpResponse) : Network := fun _ => some response

def HttpResponse.oneRepository (status : Nat) : HttpResponse :=
  ⟨status, "[\"x\"]".toUTF8⟩

theorem Answer.decodes_oneRepository (token : String) (status : Nat) :
    Decodes (.listRepositories token) (HttpResponse.oneRepository status).body (.names ["x"]) := by
  refine ⟨.ofStrings ["x"], ?_, .repositories token ["x"]⟩
  have characters : Utf8.decode (HttpResponse.oneRepository status).body =
      ['[', '"', 'x', '"', ']'].map some := by rfl
  have tokens : JsonToken.ofSource (['[', '"', 'x', '"', ']'].map some) =
      some [.openArray, .string (some "x"), .closeArray] := by decide +kernel
  unfold JsonText.ofSource?
  rw [characters, tokens]
  rfl

theorem Client.receives_constant (response : HttpResponse) :
    Receives ⟨"http://h/api"⟩ (.constant response) (.listRepositories "t") response := by
  have sent : (request ⟨"http://h/api"⟩ (.listRepositories "t")).isOk = true := by decide +kernel
  cases sends : request ⟨"http://h/api"⟩ (.listRepositories "t") with
  | ok request => exact ⟨request, sends, rfl⟩
  | error failure =>
      rw [sends] at sent
      contradiction

/-- The list is taken for an answer with the status 200 and also with the status 300, and with
the status 500 it is not. -/
theorem Client.oneRepository_by_status :
    let perform := fun status => Client.perform ⟨"http://h/api"⟩
      (.constant (.oneRepository status)) (.listRepositories "t")
    perform 200 = .ok (.names ["x"]) ∧ (∃ answer, perform 300 = .ok answer) ∧
      perform 500 = .error (.status 500) := by
  intro perform
  have succeeds := fun status => perform_succeeds ⟨"http://h/api"⟩
    (.constant (.oneRepository status)) (.listRepositories "t")
  have receives := fun status => receives_constant (.oneRepository status)
  have decodes := Answer.decodes_oneRepository "t"
  refine ⟨?_, ?_, ?_⟩
  · have fine : ¬(HttpResponse.oneRepository 200).IsError := by
      simp [HttpResponse.IsError, HttpResponse.oneRepository]
    exact ((succeeds 200).1 _).mpr ⟨_, receives 200, fine, decodes 200⟩
  · have neither : (HttpResponse.oneRepository 300).IsNeither := by
      simp [HttpResponse.IsNeither, HttpResponse.oneRepository]
    exact (((succeeds 300).2 _ (receives 300)).2.mpr ⟨neither, _, decodes 300⟩).1
  · have error : (HttpResponse.oneRepository 500).IsError := by
      simp [HttpResponse.IsError, HttpResponse.oneRepository]
    exact ((succeeds 500).2 _ (receives 500)).1 error

/-- With the status 300 the call succeeds, although that is not the status of a success. -/
theorem Client.success_of_multiple_choices :
    let response := HttpResponse.oneRepository 300
    Client.Receives ⟨"http://h/api"⟩ (.constant response) (.listRepositories "t") response ∧
      Client.perform ⟨"http://h/api"⟩ (.constant response) (.listRepositories "t") =
        .ok (.names ["x"]) ∧ ¬response.IsSuccess := by
  intro response
  have receives := receives_constant response
  have unsuccessful : ¬response.IsSuccess := by
    simp [HttpResponse.IsSuccess, response, HttpResponse.oneRepository]
  refine ⟨receives, ?_, unsuccessful⟩
  rw [perform_of_receives receives, receive_eq_ok_iff]
  constructor
  · simp [HttpResponse.IsError, response, HttpResponse.oneRepository]
  · exact Answer.decodes_oneRepository "t" 300

end Backend

end DocsConsole
