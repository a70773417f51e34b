import FilterQuery.Proofs.CommandLine.Breakdown
import FilterQuery.Proofs.Session.Agreement

/-!
# Runs and sessions

A run of the command line compiles what its arguments ask for, and so does a session that knows
the same about fields. Main statement: `run_agrees` says that the two come to the same query or to
the same refusal, and what the run makes of it.
-/

set_option autoImplicit false

namespace FilterQuery

open Number Config

variable {σ : Type} {config : Config} {response : Option Json}

/-- What is known about fields after a response, or without one. -/
def knownFrom : Option Json → Except Field.CapabilitiesError Field.Cache
  | none => .ok .empty
  | some response => CommandLine.cacheOf response

/-- A session before any search. It has loaded the metadata of fields once, from a response, or it
has not loaded any. -/
inductive Session.IsFresh (config : Config) : Option Json → Session σ → Prop where
  | started {index : Option String} {state : σ} {session : Session σ} :
      Session.start config index state = .ok session → IsFresh config none session
  | informed {index : Option String} {state : σ} {server : Server σ} {started session : Session σ}
      {target : String} {response : Json} :
      Session.start config index state = .ok started →
      (server.fieldCapabilities target "*" state).1 = .ok response →
      started.refresh server target none = (.ok true, session) →
      IsFresh config (some response) session

namespace Session

variable {session : Session σ}

theorem eq_of_start {index : Option String} {state : σ}
    (started : Session.start config index state = .ok session) :
    session = ⟨config, chosen index config.search.indexPattern, .empty,
      .start config.pacing state⟩ := by
  obtain ⟨_, _, same⟩ := bind_eq_ok_iff.mp started
  cases same
  rfl

/-- Metadata that is loaded is what the server's response says, besides that of the built-in
fields. -/
theorem populate_of_refresh {server : Server σ} {after : Session σ} {target : String}
    {response : Json}
    (answered : (server.fieldCapabilities target "*" session.connection.server).1 = .ok response)
    (refreshed : session.refresh server target none = (.ok true, after)) :
    ∃ cache count connection,
      session.catalog.cache.setDefaults.populate response = .ok (cache, count) ∧
        after = { session with connection, catalog := { session.catalog with cache } } := by
  obtain ⟨answer, connection, asked, ways⟩ := session.loadMetadata_cases server target
  have given : answer = .ok response := (congrArg Prod.fst asked).symm.trans answered
  subst given
  simp only [refresh, Option.any_none, Bool.false_eq_true, if_false] at refreshed
  obtain ⟨_, refused, -⟩ | ⟨_, _, -, -, loaded⟩ | ⟨_, cache, count, same, read, loaded⟩ := ways
  · cases refused
  · rw [loaded] at refreshed
    cases refreshed
  · cases same
    rw [loaded] at refreshed
    cases refreshed
    exact ⟨cache, count, connection, read, rfl⟩

/-- A fresh session has the configuration that it was started with and knows what the response
says. -/
theorem IsFresh.knows (fresh : IsFresh config response session) :
    session.config = config ∧ knownFrom response = .ok session.catalog.cache := by
  cases fresh with
  | started started =>
      rw [eq_of_start started]
      exact ⟨rfl, rfl⟩
  | informed begun answered refreshed =>
      obtain rfl := eq_of_start begun
      obtain ⟨cache, count, connection, read, rfl⟩ := populate_of_refresh answered refreshed
      exact ⟨rfl, congrArg (Except.map Prod.fst) read⟩

/-- Every accepted configuration has a fresh session for every response that can be read, with any
server that gives this response. -/
theorem exists_isFresh {server : Server σ} {state : σ} {target : String} {cache : Field.Cache}
    (checked : config.check = .ok ()) (known : knownFrom response = .ok cache)
    (answered : ∀ described, response = some described →
      (server.fieldCapabilities target "*" state).1 = .ok described) :
    ∃ session : Session σ, session.IsFresh config response := by
  have started := start_of_check (check_eq_ok_iff.mp checked).1 none state
  cases response with
  | none => exact ⟨_, .started started⟩
  | some described =>
      have given := answered described rfl
      refine ⟨_, .informed started given (Prod.ext ?_ rfl)⟩
      have read : ∃ stored, Field.Cache.empty.setDefaults.populate described = .ok stored := by
        cases populated : Field.Cache.empty.setDefaults.populate described with
        | ok stored => exact ⟨stored, rfl⟩
        | error error =>
            rw [knownFrom, CommandLine.cacheOf, populated] at known
            cases known
      obtain ⟨⟨_, _⟩, read⟩ := read
      have empty : Field.Catalog.empty.cache = .empty := rfl
      simp only [refresh, Option.any_none, Bool.false_eq_true, if_false, loadMetadata,
        Connection.perform, Connection.start, given, empty, read, Except.map]

end Session

namespace CommandLine

variable {surroundings : Surroundings} {options : Options} {setup : Setup} {session : Session σ}

/-- The response in the file with fields, or none when no file is named. -/
inductive Surroundings.Provides (surroundings : Surroundings) :
    Option String → Option Json → Prop where
  | unnamed : Provides surroundings none none
  | empty : Provides surroundings (some "") none
  | document {path text : String} {response : Json} :
      path ≠ "" → surroundings.content path = .text text → Json.read text = .ok response →
      Provides surroundings (some path) (some response)

theorem loadFields_of_provides {path : Option String} {cache : Field.Cache}
    (provided : surroundings.Provides path response) (known : knownFrom response = .ok cache) :
    loadFields surroundings path = .ok cache := by
  cases provided with
  | unnamed =>
      cases known
      rfl
  | empty =>
      cases known
      rfl
  | @document path text response filled isText read =>
      have known : cacheOf response = .ok cache := known
      unfold loadFields
      split
      · next none => cases none
      · next empty => exact absurd (Option.some.inj empty) filled
      · next named =>
          cases named
          simp only [isText, read, known, mapError_ok]

/-- The end of a run for what a session compiles the same demand to. A query is printed unless its
size has too many digits, and a refusal is reported with its message. -/
inductive Ending.Tells : Ending → Except QueryFault Query → Prop where
  | printed {query : Query} :
      isWritable query.size = true → Json.read (line query.toJson.pageText) = .ok query.toJson →
      Tells (.finished 0 (line query.toJson.pageText) "") (.ok query)
  | unprintable {query : Query} {breakdown : Breakdown} :
      isWritable query.size = false → Tells (.broken breakdown) (.ok query)
  | query {error : QueryError} {output : String} :
      Json.read output = .ok (report error.message) →
      Tells (.finished 1 "" output) (.error (.query error))
  | timeframe {error : TimeframeError} {output : String} :
      Json.read output = .ok (report (timeQueryMessage error)) →
      Tells (.finished 1 "" output) (.error (.timeframe error))
  | broken {breakdown : Breakdown} {reason : Filter.Breakdown} :
      Tells (.broken breakdown) (.error (.broken reason))

section Tells

variable {ending : Ending} {result : Except QueryFault Query}

theorem Ending.Tells.finished_iff (tells : ending.Tells result) :
    (∃ output, ending = .finished 0 output "") ↔
      ∃ query, result = .ok query ∧ isWritable query.size = true := by
  cases tells with
  | printed short _ => exact iff_of_true ⟨_, rfl⟩ ⟨_, rfl, short⟩
  | unprintable long =>
      refine iff_of_false (fun finished => nomatch finished) ?_
      rintro ⟨query, same, short⟩
      cases same
      rw [long] at short
      cases short
  | query => exact iff_of_false (fun finished => nomatch finished) (fun found => nomatch found)
  | timeframe => exact iff_of_false (fun finished => nomatch finished) (fun found => nomatch found)
  | broken => exact iff_of_false (fun finished => nomatch finished) (fun found => nomatch found)

theorem Ending.Tells.printed_eq {query : Query} {output : String} (tells : ending.Tells result)
    (found : result = .ok query) (finished : ending = .finished 0 output "") :
    output = line query.toJson.pageText ∧ Json.read output = .ok query.toJson := by
  subst found finished
  cases tells with
  | printed _ read => exact ⟨rfl, read⟩

theorem Ending.Tells.exists_query {error : QueryError} (tells : ending.Tells result)
    (refused : result = .error (.query error)) :
    ∃ output, ending = .finished 1 "" output ∧ Json.read output = .ok (report error.message) := by
  subst refused
  cases tells with
  | query read => exact ⟨_, rfl, read⟩

theorem Ending.Tells.exists_timeframe {error : TimeframeError} (tells : ending.Tells result)
    (refused : result = .error (.timeframe error)) :
    ∃ output, ending = .finished 1 "" output ∧
      Json.read output = .ok (report (timeQueryMessage error)) := by
  subst refused
  cases tells with
  | timeframe read => exact ⟨_, rfl, read⟩

end Tells

theorem compile_tells (shown : setup.now.IsShown) :
    (compile setup options).Tells (setup.result options) := by
  rw [compile_eq]
  split
  · next query found =>
      have built := build_of_result found
      have writable := Query.unwritable?_toJson_eq_none_iff shown built
      rw [found, succeeded]
      split
      · next printable =>
          have short := writable.mp printable
          exact .printed short (Query.read_pageText shown built short)
      · next integer long =>
          refine .unprintable (Bool.eq_false_iff.mpr fun short => ?_)
          rw [writable.mpr short] at long
          cases long
  · next found =>
      rw [found]
      exact .query (Json.read_lineText rfl)
  · next found =>
      rw [found]
      exact .query (Json.read_pageText rfl)
  · next found =>
      rw [found]
      exact .timeframe (Json.read_pageText rfl)
  · next found =>
      rw [found]
      exact .broken

/-- A run finds the same about fields as a session that loads the response itself, so it compiles
what the session compiles. -/
theorem run_eq_compile {arguments : List String} {now : Moment}
    (asked : readOptions arguments = .ok options) (unchecked : options.checkTimeframe = none)
    (loaded : loadConfig surroundings options.config = .ok config)
    (provided : surroundings.Provides options.fieldsFile response)
    (timed : readNow surroundings.zone surroundings.current options.now = .ok now)
    (fresh : session.IsFresh config response) :
    run surroundings arguments = compile ⟨config, session.catalog.cache, now⟩ options := by
  have known := loadFields_of_provides provided fresh.knows.2
  rw [run, asked]
  exact perform_of_prepare unchecked (prepare_eq_ok_iff.mpr ⟨loaded, known, timed⟩)

/-- A run and a fresh session that knows the same about fields come to the same: the run prints the
session's query, unless its size has too many digits, and reports the errors of the session. -/
theorem run_agrees {arguments : List String} {now : Moment} (real : surroundings.IsReal)
    (asked : readOptions arguments = .ok options) (unchecked : options.checkTimeframe = none)
    (loaded : loadConfig surroundings options.config = .ok config)
    (provided : surroundings.Provides options.fieldsFile response)
    (timed : readNow surroundings.zone surroundings.current options.now = .ok now)
    (fresh : session.IsFresh config response) :
    let ending := run surroundings arguments
    let result := session.compile ⟨options.filters, options.size, options.timeframe, now⟩
    ((∃ output, ending = .finished 0 output "") ↔
      ∃ query, result = .ok query ∧ isWritable query.size = true) ∧
    (∀ query output, result = .ok query → ending = .finished 0 output "" →
      output = line query.toJson.pageText ∧ Json.read output = .ok query.toJson) ∧
    (∀ error, result = .error (.query error) → ∃ output, ending = .finished 1 "" output ∧
      Json.read output = .ok (report error.message)) ∧
    ∀ error, result = .error (.timeframe error) → ∃ output, ending = .finished 1 "" output ∧
      Json.read output = .ok (report (timeQueryMessage error)) := by
  intro ending result
  have shown := isShown_of_readNow real.zone real.current timed
  have tells : ending.Tells result := by
    have ended : ending = compile ⟨config, session.catalog.cache, now⟩ options :=
      run_eq_compile asked unchecked loaded provided timed fresh
    have compiled : result =
        Setup.result ⟨config, session.catalog.cache, now⟩ options := by
      rw [← fresh.knows.1]
      rfl
    rw [ended, compiled]
    exact compile_tells shown
  exact ⟨tells.finished_iff, fun _ _ => tells.printed_eq, fun _ => tells.exists_query,
    fun _ => tells.exists_timeframe⟩

def oneField : Json :=
  .obj [("fields", .obj [("age", .obj [("long", .obj [])])])]

/-- A file with the response, a reader that finds no document, no variables, and a clock that shows
the first second of 1970 in UTC. -/
def oneFile : Surroundings where
  reader := bare.reader
  content := fun path => if path = "fields.json" then .text (line oneField.lineText) else .nothing
  environment := []
  zone := 0
  current := ⟨0, 0⟩

theorem isReal_oneFile : oneFile.IsReal :=
  ⟨isReal_bare.zone, isReal_bare.current⟩

/-- A filter for the field of the response, and a time for which there is no timeframe. -/
def oneFilter : Options :=
  { Options.none with
    filters := ["age>=21"], timeframe := some "", now := some "60", fieldsFile := some "fields.json" }

theorem run_agrees_oneFile :
    let arguments := ["-f", "age>=21", "-t", "", "--now=60", "--fields-file=fields.json"]
    let informed := ((Session.visitor (.ok oneField)).refresh Session.outspoken "*" none).2
    let query : Query := ⟨[.range "age" .atLeast (.whole 21)], 1000⟩
    readOptions arguments = .ok oneFilter ∧
      loadConfig oneFile oneFilter.config = .ok .standard ∧
      oneFile.Provides oneFilter.fieldsFile (some oneField) ∧
      readNow oneFile.zone oneFile.current oneFilter.now = .ok ⟨60000000, 0⟩ ∧
      informed.IsFresh .standard (some oneField) ∧
      informed.compile ⟨oneFilter.filters, oneFilter.size, oneFilter.timeframe, ⟨60000000, 0⟩⟩ =
        .ok query ∧
      ∃ output, run oneFile arguments = .finished 0 output "" ∧
        Json.read output = .ok query.toJson := by
  intro arguments informed query
  have asked : readOptions arguments = .ok oneFilter := toOption_eq_some_iff.mp (by decide +kernel)
  have loaded : loadConfig oneFile oneFilter.config = .ok .standard := loadConfig_none rfl
  have provided : oneFile.Provides oneFilter.fieldsFile (some oneField) :=
    .document (by decide) rfl (Json.read_lineText rfl)
  have timed : readNow oneFile.zone oneFile.current oneFilter.now = .ok ⟨60000000, 0⟩ :=
    toOption_eq_some_iff.mp (by decide +kernel)
  have refreshed : (Session.visitor (.ok oneField)).refresh Session.outspoken "*" none =
      (.ok true, informed) := Prod.ext (toOption_eq_some_iff.mp (by decide +kernel)) rfl
  have fresh : informed.IsFresh .standard (some oneField) :=
    .informed (Session.start_standard none (.ok oneField)) rfl refreshed
  have compiled : informed.compile
      ⟨oneFilter.filters, oneFilter.size, oneFilter.timeframe, ⟨60000000, 0⟩⟩ = .ok query :=
    toOption_eq_some_iff.mp (by decide +kernel)
  obtain ⟨finished, printed, -⟩ := run_agrees isReal_oneFile asked rfl loaded provided timed fresh
  obtain ⟨output, ended⟩ := finished.mpr ⟨query, compiled, by decide +kernel⟩
  exact ⟨asked, loaded, provided, timed, fresh, compiled, output, ended,
    (printed query output compiled ended).2⟩

/-- The standard configuration with another size by default, which is also the greatest one. -/
def sized (size : Int) : Config :=
  { Config.standard with
    search := { Config.standard.search with defaultSize := size, maxResults := size } }

theorem check_sized {size : Int} (least : 1 ≤ size) : (sized size).check = .ok () := by
  have standard : Config.standard.check = .ok () := toOption_eq_some_iff.mp (by decide +kernel)
  obtain ⟨pacing, search, port⟩ := check_eq_ok_iff.mp standard
  obtain ⟨-, -, rest⟩ := (checkSearch_eq_ok_iff ⟨0, 0⟩).mp search
  exact check_eq_ok_iff.mpr
    ⟨pacing, (checkSearch_eq_ok_iff ⟨0, 0⟩).mpr ⟨least, Int.le_refl size, rest⟩, port⟩

theorem build_everything {size : Int} (least : 1 ≤ size) (cache : Field.Cache) (now : Moment) :
    Query.build [] size "" cache now = .ok ⟨[], size⟩ :=
  Query.build_eq_ok_iff.mpr ⟨by omega, [], [], .unlimited rfl, .nil, rfl⟩

theorem compile_sized {size : Int} (least : 1 ≤ size) {session : Session σ}
    (fresh : session.IsFresh (sized size) none) (now : Moment) :
    session.compile ⟨[], none, some "", now⟩ = .ok ⟨[], size⟩ := by
  obtain ⟨same, known⟩ := fresh.knows
  rw [Session.compile, Demand.compile, same]
  exact (if_neg (Int.lt_irrefl size)).trans (build_everything least _ now)

theorem isBroken_compile_everything (checked : setup.config.check = .ok ())
    (shown : setup.now.IsShown) (unfiltered : options.filters = []) (unsized : options.size = none)
    (unlimited : options.timeframe = some "")
    (long : isWritable setup.config.search.defaultSize = false) :
    IsBroken (compile setup options) := by
  have writable (size : Int) (asked : options.size = some size) : isWritable size = true := by
    rw [unsized] at asked
    cases asked
  refine (isBroken_compile_iff checked shown writable).mpr (.inr ⟨unsized, long, ?_⟩)
  rw [unfiltered, Setup.timeframe, unlimited]
  exact ⟨_, build_everything (one_le_defaultSize checked).1 setup.cache setup.now⟩

/-- The document with both sizes. -/
def sizedDocument (size : Int) : Yaml :=
  .map [(.str "search", .map [(.str "default_num_results", .int size),
    (.str "max_results", .int size)])]

theorem load_sizedDocument {size : Int} (least : 1 ≤ size) (path : String) :
    load ⟨some (path, .ok (sizedDocument size)), []⟩ = .ok (sized size) :=
  load_eq_ok_iff.mpr ⟨sized size, rfl, rfl, check_sized least⟩

/-- The number with the hexadecimal digits one and then 3600 times zero. -/
def longSize : Int :=
  (Nat.pow 16 3600 : Nat)

theorem isWritable_longSize : isWritable longSize = false := by
  refine Bool.eq_false_iff.mpr fun short => ?_
  rw [isWritable_iff, longSize, Int.natAbs_natCast] at short
  exact absurd short (by decide +kernel)

theorem one_le_longSize : 1 ≤ longSize := by
  rw [longSize]
  generalize 3600 = zeros
  have positive : 0 < Nat.pow 16 zeros := Nat.pow_pos (by decide)
  omega

/-- The text of a file with both sizes in hexadecimal digits. -/
def sizedText : String :=
  let size := "0x1" ++ String.ofList (List.replicate 3600 '0')
  s!"search:\n  default_num_results: {size}\n  max_results: {size}\n"

/-- A configuration file with some text, a reader that reads this text as a document, and nothing
else but a clock. -/
def oneConfig (text : String) (document : Yaml) : Surroundings where
  reader := fun other => if other = text then .ok document else bare.reader other
  content := fun path => if path = "cfg.yaml" then .text text else .nothing
  environment := []
  zone := 0
  current := ⟨0, 0⟩

theorem loadConfig_oneConfig (text : String) {document : Yaml}
    (loaded : load ⟨some ("cfg.yaml", .ok document), []⟩ = .ok config) :
    loadConfig (oneConfig text document) (some "cfg.yaml") = .ok config := by
  have source : configSource (oneConfig text document) (some "cfg.yaml") =
      .ok ⟨some ("cfg.yaml", .ok document), []⟩ := by
    simp [configSource, readConfigFile, oneConfig]
  rw [loadConfig_eq, source, ok_bind, loaded]
  rfl

/-- With as many documents by default as cannot be written, a session finds a query and a run
breaks down over printing it. -/
theorem run_longSize_broken :
    let surroundings := oneConfig sizedText (sizedDocument longSize)
    let arguments := ["-c", "cfg.yaml", "-t", ""]
    let options : Options :=
      { Options.none with config := some "cfg.yaml", timeframe := some "" }
    let started : Session Unit :=
      ⟨sized longSize, "*", .empty, .start (sized longSize).pacing ()⟩
    readOptions arguments = .ok options ∧
      loadConfig surroundings options.config = .ok (sized longSize) ∧
      started.IsFresh (sized longSize) none ∧
      started.compile ⟨options.filters, options.size, options.timeframe, ⟨0, 0⟩⟩ =
        .ok ⟨[], longSize⟩ ∧
      IsBroken (run surroundings arguments) := by
  intro surroundings arguments options started
  have asked : readOptions arguments = .ok options := toOption_eq_some_iff.mp (by decide +kernel)
  have loaded : loadConfig surroundings options.config = .ok (sized longSize) :=
    loadConfig_oneConfig sizedText (load_sizedDocument one_le_longSize "cfg.yaml")
  have checked : (sized longSize).check = .ok () := check_sized one_le_longSize
  have fresh : started.IsFresh (sized longSize) none :=
    .started (Session.start_of_check (check_eq_ok_iff.mp checked).1 none ())
  have ended : run surroundings arguments =
      compile ⟨sized longSize, started.catalog.cache, ⟨0, 0⟩⟩ options :=
    run_eq_compile asked rfl loaded .unnamed rfl fresh
  refine ⟨asked, loaded, fresh, compile_sized one_le_longSize fresh ⟨0, 0⟩, ?_⟩
  rw [ended]
  exact isBroken_compile_everything checked isReal_bare.current rfl rfl rfl isWritable_longSize

end CommandLine

end FilterQuery
