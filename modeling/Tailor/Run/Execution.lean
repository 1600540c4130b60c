import Tailor.Run.Basic

/-! # Running a configuration

The documents are processed in the order of the configuration, with one cache of answers, so a
question that comes again takes the answer given first. A document that fails either ends the run,
and those behind it are skipped, or is reported while the run goes on.
-/

namespace Tailor.Run

variable {σ : Type}

/-- The text of a document's source and then its processed form, or the fault of the document. What
somebody types and cannot be decoded counts as an unreadable source. -/
def processed (world : World (σ × Files)) (substitution : Substitution)
    (document : DocumentConfig) : Act σ (Except DocumentFault Text) := do
  match (← get).files.readText document.source with
  | .error (.file .nullCharacter) => throw (.files .nullCharacter)
  | .error fault => pure (.error (.unreadable fault))
  | .ok text =>
      match ← attempt (process world document.treatment substitution text) with
      | .ok content => pure (.ok content)
      | .error (.problem what line) => pure (.error (.problem what line))
      | .error (.crash (.undecodable fault)) => pure (.error (.unreadable (.undecodable fault)))
      | .error (.crash crash) => throw (.session crash)

/-- The fault of a document whose delivery failed; what the file system did not refuse ends the
run. -/
def deliveryFault : FileFault → Act σ DocumentFault
  | .refused refusal path other? => pure (.undeliverable (.refused refusal path other?))
  | .targetExists target => pure (.targetExists (.targetExists target))
  | fault => throw (.files fault)

/-- The path of the processed form of a document. -/
def outputOf (document : DocumentConfig) : Act σ Path :=
  match document.output? with
  | some output => pure output
  | none => throw (.files (.nameless document.source.text))

/-- Makes the target of a document a link to its written form. -/
def linkTarget (output target : Path) : Act σ (Except FileFault Unit) := do
  match ← attemptFiles (Files.clearTarget output target) with
  | .error fault => pure (.error fault)
  | .ok source =>
      note .info .linking ("Linking ".toList ++ source.text ++ " to ".toList ++ target.text)
      attemptFiles (Files.makeLink source target)

/-- Writes a processed document and links its target, if targets are linked. -/
def deliver (options : Options) (document : DocumentConfig) (content : Text) : Act σ Status := do
  let output ← outputOf document
  match ← attemptFiles (Files.deliver output content) with
  | .error fault => return .failed (← deliveryFault fault)
  | .ok written =>
      if options.link then
        match ← linkTarget written document.target with
        | .error fault => return .failed (← deliveryFault fault)
        | .ok () => return .completed (some written)
      else return .completed (some written)

def announce (document : DocumentConfig) : Act σ Status := do
  let output ← outputOf document
  note .info .running
    ("[DRY RUN] Would write ".toList ++ output.text ++ " and link ".toList ++
      document.target.text)
  pure (.completed none)

/-- Processes, writes and links one document. -/
def executeDocument (world : World (σ × Files)) (options : Options) (substitution : Substitution)
    (document : DocumentConfig) : Act σ DocumentResult := do
  note .info .running ("Preprocessing ".toList ++ document.source.text)
  let status ←
    match ← processed world substitution document with
    | .error fault => pure (.failed fault)
    | .ok content =>
        if options.dryRun then announce document else deliver options document content
  pure ⟨document.source, document.target, status⟩

def report (document : DocumentConfig) (fault : DocumentFault) : Text :=
  let line :=
    match fault.line? with
    | some line => " at line ".toList ++ Text.ofNat line
    | none => []
  "Document '".toList ++ document.source.text ++ "' failed".toList ++ line ++ " (".toList ++
    fault.sort.toList ++ "): ".toList ++ fault.message

/-- The result of a document that is not processed. -/
def skip (document : DocumentConfig) : DocumentResult :=
  ⟨document.source, document.target, .skipped⟩

def executeAll (world : World (σ × Files)) (options : Options) (substitution : Substitution) :
    List DocumentConfig → Act σ (List DocumentResult)
  | [] => pure []
  | document :: documents => do
      let result ← executeDocument world options substitution document
      match result.status with
      | .failed fault =>
          match options.onError with
          | .stop =>
              note .error .running (report document fault ++ ". Stopping run.".toList)
              pure (result :: documents.map skip)
          | .proceed =>
              note .warning .running (report document fault ++ ". Continuing.".toList)
              let others ← executeAll world options substitution documents
              pure (result :: others)
      | _ =>
          let others ← executeAll world options substitution documents
          pure (result :: others)

/-- Runs a configuration: one result per document, in order. -/
def execute (world : World (σ × Files)) (options : Options) (config : Config) :
    Act σ (List DocumentResult) :=
  executeAll world options config.substitution config.documents

def succeeded (results : List DocumentResult) : Bool :=
  results.all fun result => !result.isFailed

end Tailor.Run
