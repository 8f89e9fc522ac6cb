import DocsConsole.Backend.Client
import DocsConsole.Proofs.Text.Utf8

/-!
# Reading forms back

The parts of a form say again what was sent: a header gives back the names of its field and
of its file, whatever characters the name of the file holds, and a body is not changed.  So
requests that differ in what they say are sent in different parts.
-/

namespace DocsConsole.Backend

/-! ## Headers -/

namespace Field

theorem unescapeName_escapeNameChar (c : Char) (rest : List Char) :
    unescapeName (escapeNameChar c ++ rest) = (unescapeName rest).map (c :: ·) := by
  unfold escapeNameChar
  split
  case isTrue special => rfl
  case isFalse plain =>
    simp only [not_or] at plain
    obtain ⟨notBackslash, notQuote, _, _⟩ := plain
    rw [List.singleton_append, unescapeName]
    · exact fun isQuote => (notQuote isQuote).elim
    · exact fun _ _ isBackslash => (notBackslash isBackslash).elim
    · exact fun _ _ isQuote => (notQuote isQuote).elim

theorem unescapeName_escapeName (name : List Char) :
    unescapeName (escapeName name ++ ['\x22']) = some name := by
  induction name with
  | nil => rfl
  | cons c name induction =>
      have divided : escapeName (c :: name) ++ ['\x22'] =
          escapeNameChar c ++ (escapeName name ++ ['\x22']) := by
        simp [escapeName]
      rw [divided, unescapeName_escapeNameChar, induction, Option.map_some]

theorem takeWhile_name {name : List Char} (plain : '\x22' ∉ name) (more : List Char) :
    (name ++ '\x22' :: more).takeWhile (· ≠ '\x22') = name := by
  have inside : ∀ c ∈ name, decide (c ≠ '\x22') = true := by
    intro c member
    refine decide_eq_true ?_
    rintro rfl
    exact plain member
  rw [List.takeWhile_append_of_pos inside]
  simp

/-- The name of a field ends at the first quote. -/
theorem readHeader?_append {name : List Char} (plain : '\x22' ∉ name) {after more : List Char}
    (begun : after = '\x22' :: more) :
    readHeader? (dispositionStart ++ (name ++ after)) =
      if after = ['\x22'] then some (name, none)
      else if fileNameStart.isPrefixOf after then
        (unescapeName (after.drop fileNameStart.length)).map fun fileName => (name, some fileName)
      else none := by
  have start : dispositionStart.isPrefixOf (dispositionStart ++ (name ++ after)) = true :=
    List.isPrefixOf_iff_prefix.mpr (List.prefix_append _ _)
  have named : (name ++ after).takeWhile (· ≠ '\x22') = name := by
    rw [begun]
    exact takeWhile_name plain more
  unfold readHeader?
  rw [if_pos start, List.drop_left]
  dsimp only
  rw [named, List.drop_left]

variable {field : Field}

/-- Only the name of a file is escaped, so the name of a field may not hold a quote. -/
def HasPlainName (field : Field) : Prop :=
  '\x22' ∉ field.name.toList

theorem readHeader?_header (plain : field.HasPlainName) :
    readHeader? field.header = some (field.name.toList, field.fileName.map String.toList) := by
  cases named : field.fileName with
  | none =>
      have header : field.header = dispositionStart ++ (field.name.toList ++ ['\x22']) := by
        simp [Field.header, named]
      rw [header, readHeader?_append plain rfl, if_pos rfl]
      rfl
  | some fileName =>
      have header : field.header = dispositionStart ++ (field.name.toList ++
          (fileNameStart ++ (escapeName fileName.toList ++ ['\x22']))) := by
        simp [Field.header, named]
      obtain ⟨more, begun⟩ : ∃ more, fileNameStart = '\x22' :: more := ⟨_, rfl⟩
      have goesOn : fileNameStart ++ (escapeName fileName.toList ++ ['\x22']) =
          '\x22' :: (more ++ (escapeName fileName.toList ++ ['\x22'])) := by
        rw [begun, List.cons_append]
      have unended : fileNameStart ++ (escapeName fileName.toList ++ ['\x22']) ≠ ['\x22'] := by
        rw [goesOn]
        simp
      have start : fileNameStart.isPrefixOf
          (fileNameStart ++ (escapeName fileName.toList ++ ['\x22'])) = true :=
        List.isPrefixOf_iff_prefix.mpr (List.prefix_append _ _)
      rw [header, readHeader?_append plain goesOn, if_neg unended, if_pos start, List.drop_left,
        unescapeName_escapeName]
      rfl

theorem ofPart?_toPart (plain : field.HasPlainName) : ofPart? field.toPart = some field := by
  rw [ofPart?, toPart]
  dsimp only
  rw [String.toList_ofList, readHeader?_header plain, Option.map_some]
  simp

end Field

/-! ## What a form says -/

namespace Field

/-- The text of a field of a given name that is no file. -/
def text? (name : String) (field : Field) : Option String :=
  if field.name = name ∧ field.fileName = none then Utf8.text? field.body else none

/-- The name and the content of a file in a field of a given name. -/
def file? (name : String) (field : Field) : Option (String × ByteArray) :=
  if field.name = name then field.fileName.map (·, field.body) else none

@[simp] theorem text?_ofText (name text : String) : (ofText name text).text? name = some text := by
  rw [text?, if_pos ⟨rfl, rfl⟩]
  exact Utf8.text?_toUTF8 text

@[simp] theorem file?_ofText (name other text : String) :
    (ofText name text).file? other = none := by
  simp [file?, ofText]

@[simp] theorem file?_ofFile (name : String) (file : UploadedFile) :
    (ofFile name file).file? name = some (file.name, file.content) := by
  simp [file?, ofFile]

end Field

/-- What is said to ask for documentation. -/
structure DocsForm where
  /-- The names and contents of the files. -/
  files : List (String × ByteArray)
  purpose : Purpose
  projectName : String
  instructions : String

namespace DocsForm

/-- What a request says.  It does not say where its files come from. -/
def ofRequest (request : DocsRequest) : DocsForm :=
  ⟨request.files.map fun file => (file.name, file.content), request.purpose, request.projectName,
    request.instructions⟩

/-- Reads the three texts after the files. -/
def ofTexts? : List Field → Option DocsForm
  | [purpose, projectName, instructions] => do
      let purpose ← (purpose.text? "purpose").bind Purpose.ofName?
      let projectName ← projectName.text? "project_name"
      let instructions ← instructions.text? "custom_instructions"
      some ⟨[], purpose, projectName, instructions⟩
  | _ => none

/-- Reads files as long as there are any, and then three texts. -/
def ofFields? : List Field → Option DocsForm
  | [] => none
  | field :: rest =>
      match field.file? "files" with
      | some file => (ofFields? rest).map fun form => { form with files := file :: form.files }
      | none => ofTexts? (field :: rest)

def ofParts? (parts : List Part) : Option DocsForm :=
  (parts.mapM Field.ofPart?).bind ofFields?

theorem ofFields?_docsFields (request : DocsRequest) :
    ofFields? (docsFields request) = some (ofRequest request) := by
  obtain ⟨files, purpose, projectName, instructions⟩ := request
  induction files with
  | nil => simp [docsFields, ofFields?, ofTexts?, ofRequest, Purpose.ofName?_name]
  | cons file files induction =>
      have fields : docsFields ⟨file :: files, purpose, projectName, instructions⟩ =
          .ofFile "files" file :: docsFields ⟨files, purpose, projectName, instructions⟩ := rfl
      rw [fields, ofFields?, Field.file?_ofFile, induction]
      rfl

end DocsForm

/-! ## What is sent -/

theorem mapM_ofPart?_toPart {fields : List Field} (plain : ∀ field ∈ fields, field.HasPlainName) :
    (fields.map Field.toPart).mapM Field.ofPart? = some fields := by
  induction fields with
  | nil => rfl
  | cons field fields induction =>
      have first := Field.ofPart?_toPart (plain field List.mem_cons_self)
      have rest := induction fun other member => plain other (List.mem_cons_of_mem field member)
      simp [first, rest]

theorem docsFields_plain (request : DocsRequest) :
    ∀ field ∈ docsFields request, field.HasPlainName := by
  intro field member
  simp only [docsFields, List.mem_append, List.mem_map, List.mem_cons, List.not_mem_nil,
    or_false] at member
  rcases member with ⟨file, _, rfl⟩ | rfl | rfl | rfl
  · exact (by decide : '\x22' ∉ "files".toList)
  · exact (by decide : '\x22' ∉ "purpose".toList)
  · exact (by decide : '\x22' ∉ "project_name".toList)
  · exact (by decide : '\x22' ∉ "custom_instructions".toList)

theorem qualityField_plain (file : UploadedFile) : (Field.ofFile "file" file).HasPlainName :=
  (by decide : '\x22' ∉ "file".toList)

theorem Client.body_of_request {client : Client} {call : Call} {request : HttpRequest}
    (sent : client.request call = .ok request) : request.body = call.body := by
  unfold Client.request at sent
  split at sent
  · contradiction
  · dsimp only at sent
    split at sent
    · cases sent
      rfl
    · contradiction

/-- Nothing is sent but what a request says. -/
theorem docsFields_of_form {request other : DocsRequest}
    (same : DocsForm.ofRequest request = .ofRequest other) :
    docsFields request = docsFields other := by
  have fields : ∀ request : DocsRequest, docsFields request =
      (DocsForm.ofRequest request).files.map (fun file => ⟨"files", some file.1, file.2⟩) ++
        [.ofText "purpose" (DocsForm.ofRequest request).purpose.name,
          .ofText "project_name" (DocsForm.ofRequest request).projectName,
          .ofText "custom_instructions" (DocsForm.ofRequest request).instructions] := by
    intro request
    simp [docsFields, DocsForm.ofRequest, Field.ofFile]
  rw [fields request, fields other, same]

theorem ofParts?_docsFields (request : DocsRequest) :
    DocsForm.ofParts? ((docsFields request).map Field.toPart) = some (.ofRequest request) := by
  rw [DocsForm.ofParts?, mapM_ofPart?_toPart (docsFields_plain request), Option.bind_some,
    DocsForm.ofFields?_docsFields]

/-- The parts of a form say what was sent, in order and nothing else, and other parts are sent
exactly if something else is said. -/
theorem Client.forms_read_back (client : Client) :
    (∀ request http, client.request (.generateDocs request) = .ok http →
      ∃ parts, http.body = .parts parts ∧
        parts.mapM Field.ofPart? =
          some (request.files.map (fun file => ⟨"files", some file.name, file.content⟩) ++
            [⟨"purpose", none, request.purpose.name.toUTF8⟩,
              ⟨"project_name", none, request.projectName.toUTF8⟩,
              ⟨"custom_instructions", none, request.instructions.toUTF8⟩]) ∧
        DocsForm.ofParts? parts = some (.ofRequest request) ∧
        ∀ (other : Client) otherRequest otherHttp,
          other.request (.generateDocs otherRequest) = .ok otherHttp →
          (otherHttp.body = http.body ↔
            DocsForm.ofRequest otherRequest = .ofRequest request)) ∧
    ∀ file http, client.request (.analyzeQuality file) = .ok http →
      ∃ part, http.body = .parts [part] ∧
        Field.ofPart? part = some ⟨"file", some file.name, file.content⟩ ∧
        ∀ (other : Client) otherFile otherHttp,
          other.request (.analyzeQuality otherFile) = .ok otherHttp →
          (otherHttp.body = http.body ↔
            otherFile.name = file.name ∧ otherFile.content = file.content) := by
  constructor
  · intro request http sent
    have body : http.body = .parts ((docsFields request).map Field.toPart) :=
      body_of_request sent
    refine ⟨_, body, mapM_ofPart?_toPart (docsFields_plain request),
      ofParts?_docsFields request, ?_⟩
    intro other otherRequest otherHttp otherSent
    have otherBody : otherHttp.body = .parts ((docsFields otherRequest).map Field.toPart) :=
      body_of_request otherSent
    rw [body, otherBody]
    constructor
    · intro same
      have parts := Body.parts.inj same
      have forms := ofParts?_docsFields otherRequest
      rw [parts, ofParts?_docsFields] at forms
      exact (Option.some.inj forms).symm
    · intro same
      rw [docsFields_of_form same]
  · intro file http sent
    have body : http.body = .parts [(Field.ofFile "file" file).toPart] := body_of_request sent
    have read := fun file => Field.ofPart?_toPart (qualityField_plain file)
    refine ⟨_, body, read file, ?_⟩
    intro other otherFile otherHttp otherSent
    have otherBody : otherHttp.body = .parts [(Field.ofFile "file" otherFile).toPart] :=
      body_of_request otherSent
    rw [body, otherBody]
    constructor
    · intro same
      have parts := List.cons.inj (Body.parts.inj same)
      have fields := read otherFile
      rw [parts.1, read file] at fields
      simp only [Field.ofFile, Option.some.injEq, Field.mk.injEq] at fields
      exact ⟨fields.2.1.symm, fields.2.2.symm⟩
    · rintro ⟨sameName, sameContent⟩
      simp [Field.ofFile, sameName, sameContent]

/-- A request with a file whose name holds each of the characters that are escaped, and with
one whose content is no text. -/
def trickyRequest : DocsRequest :=
  ⟨[⟨"a\"; filename=\"b\\\r\n", "/a", "--\r\n".toUTF8⟩, ⟨"", "/b", ⟨#[0, 255]⟩⟩], .inlineComments,
    "", "files"⟩

/-- A call without a token is sent wherever its address can be read. -/
theorem Client.sends {client : Client} {call : Call} (tokenless : call.bearer? = none)
    (address : (Web.Url.read? (client.baseUrl ++ "/" ++ call.endpoint)).isSome = true) :
    ∃ http, client.request call = .ok http := by
  obtain ⟨url, read⟩ := Option.isSome_iff_exists.mp address
  refine ⟨⟨call.method, url, none, call.body⟩, ?_⟩
  simp only [Client.request, read, tokenless]
  rfl

/-- The names are read back as they were, and if the files are sent in the other order, then in
other parts. -/
theorem forms_read_back_of_trickyRequest :
    (∃ http reversed parts,
      Client.request ⟨"http://h/api"⟩ (.generateDocs trickyRequest) = .ok http ∧
      Client.request ⟨"http://h/api"⟩
        (.generateDocs { trickyRequest with files := trickyRequest.files.reverse }) = .ok reversed ∧
      http.body = .parts parts ∧ DocsForm.ofParts? parts = some (.ofRequest trickyRequest) ∧
      reversed.body ≠ http.body) ∧
    ∃ http part,
      Client.request ⟨"http://h/api"⟩ (.analyzeQuality ⟨"a\"\n", "/a", ⟨#[255]⟩⟩) = .ok http ∧
      http.body = .parts [part] ∧ Field.ofPart? part = some ⟨"file", some "a\"\n", ⟨#[255]⟩⟩ := by
  have readBack := Client.forms_read_back ⟨"http://h/api"⟩
  constructor
  · have address : (Web.Url.read? ("http://h/api" ++ "/" ++ "generate-docs")).isSome = true := by
      decide +kernel
    have sends (request : DocsRequest) :
        ∃ http, Client.request ⟨"http://h/api"⟩ (.generateDocs request) = .ok http :=
      Client.sends rfl address
    obtain ⟨http, sent⟩ := sends trickyRequest
    obtain ⟨reversed, sentReversed⟩ :=
      sends { trickyRequest with files := trickyRequest.files.reverse }
    obtain ⟨parts, body, _, form, others⟩ := readBack.1 trickyRequest http sent
    refine ⟨http, reversed, parts, sent, sentReversed, body, form, ?_⟩
    intro same
    have forms := (others _ _ reversed sentReversed).mp same
    have files := congrArg DocsForm.files forms
    simp [DocsForm.ofRequest, trickyRequest] at files
  · have address : (Web.Url.read? ("http://h/api" ++ "/" ++ "analyze-quality")).isSome = true := by
      decide +kernel
    obtain ⟨http, sent⟩ : ∃ http, Client.request ⟨"http://h/api"⟩
        (.analyzeQuality ⟨"a\"\n", "/a", ⟨#[255]⟩⟩) = .ok http :=
      Client.sends rfl address
    obtain ⟨part, body, field, _⟩ := readBack.2 _ http sent
    exact ⟨http, part, sent, body, field⟩

end DocsConsole.Backend
