import FilterQuery.Proofs.Field.Selection
import FilterQuery.Proofs.Outcome
import FilterQuery.Proofs.Session.Execution
import Mathlib.Data.List.Induction

/-!
# Which fields are known to be active

A field is marked active when the discovered fields change, and metadata that is loaded makes it
inactive again. Loading is only for good when the documents that ask for it also change the
discovered fields. Main statement: `Session.flagsFollow_run_iff`.
-/

set_option autoImplicit false

namespace FilterQuery

open Server Pacing FilterQuery.Field

namespace Field

/-- The entries of some fields, where there are any, say that they are active. -/
def Catalog.MarksActive (catalog : Catalog) (fields : List String) : Prop :=
  ∀ field ∈ fields, ∀ metadata, catalog.cache.get? field = some metadata → metadata.active = true

namespace Catalog

variable {catalog : Catalog} {documents : List Document}

theorem absorb_of_changed (filled : documents ≠ [])
    (changed : found documents ≠ catalog.selection.discovered) :
    (catalog.absorb documents).2.selection.discovered = found documents ∧
      (catalog.absorb documents).2.MarksActive (found documents) := by
  simp only [absorb, Selection.update_of_found_ne filled changed]
  refine ⟨rfl, fun field member metadata known => ?_⟩
  rw [Cache.get?_markActive, if_pos member] at known
  obtain ⟨before, -, rfl⟩ := Option.map_eq_some_iff.mp known
  rfl

theorem absorb_of_unchanged
    (unchanged : documents = [] ∨ found documents = catalog.selection.discovered) :
    (catalog.absorb documents).2 = catalog := by
  have kept : catalog.selection.update documents = (false, catalog.selection) := by
    rcases unchanged with rfl | same
    · rfl
    · exact Selection.update_of_found_eq same
  simp only [absorb, kept]

end Catalog

end Field

variable {σ : Type}

/-- What a session is asked to search for, and how patiently. -/
structure Search where
  demand : Demand
  index : Option String
  patience : Patience

def Search.step (search : Search) : Step :=
  .execute search.demand search.index search.patience

namespace Session

def search (server : Server σ) (session : Session σ) (search : Search) :
    Except SearchError SearchResult × Session σ :=
  session.execute server search.demand search.index search.patience

def searchAll (server : Server σ) (session : Session σ) (searches : List Search) : Session σ :=
  session.run server (searches.map Search.step)

/-- The names whose entries are written because nothing is known about a field of some documents. -/
def loadedFor (server : Server σ) (session : Session σ) (index : String)
    (documents : List Document) : List String :=
  if session.catalog.cache.missing (found documents) = [] then []
  else Cache.written (server.fieldCapabilities index "*" session.connection.server).1

/-- The names whose entries a search writes. -/
def loaded (server : Server σ) (session : Session σ) (search : Search) : List String :=
  match session.compile search.demand with
  | .error _ => []
  | .ok query =>
      let settings := session.config.search
      let target := chosen search.index session.index
      match session.connection.retrieve server settings
        ⟨settings.maxRetries.toNat, search.patience⟩ target query with
      | (.error _, _) => []
      | (.ok retrieved, connection) =>
          { session with connection }.loadedFor server target retrieved.documents

/-- A search leaves other discovered fields than it met. -/
def Rediscovers (server : Server σ) (session : Session σ) (search : Search) : Prop :=
  (session.search server search).2.catalog.selection.discovered ≠
    session.catalog.selection.discovered

/-- A search writes the entry of a discovered field without discovering other fields. -/
def Overwrites (server : Server σ) (session : Session σ) (search : Search) : Prop :=
  ¬session.Rediscovers server search ∧
    ∃ field ∈ session.catalog.selection.discovered, field ∈ session.loaded server search

/-- The discovered fields are marked active. -/
def FlagsFollow (session : Session σ) : Prop :=
  session.catalog.MarksActive session.catalog.selection.discovered

variable {server : Server σ} {session : Session σ}

/-- Metadata that is loaded says of no field that it is active. -/
theorem marksActive_loadMetadata_iff {index : String} {fields : List String} :
    (session.loadMetadata server index).2.catalog.MarksActive fields ↔
      session.catalog.MarksActive fields ∧ ∀ field ∈ fields,
        field ∉ Cache.written (server.fieldCapabilities index "*" session.connection.server).1 := by
  constructor
  · intro marks
    have untouched (field : String) (member : field ∈ fields) : field ∉
        Cache.written (server.fieldCapabilities index "*" session.connection.server).1 := by
      intro written
      obtain ⟨rewrites, -⟩ := session.loadMetadata_spec server index field
      obtain ⟨metadata, known, inactive⟩ := rewrites written
      rw [marks field member metadata known] at inactive
      cases inactive
    refine ⟨fun field member metadata known => ?_, untouched⟩
    obtain ⟨-, keeps⟩ := session.loadMetadata_spec server index field
    exact marks field member metadata ((keeps (untouched field member)).trans known)
  · rintro ⟨marks, untouched⟩ field member metadata known
    obtain ⟨-, keeps⟩ := session.loadMetadata_spec server index field
    exact marks field member metadata ((keeps (untouched field member)).symm.trans known)

theorem absorb_spec (server : Server σ) (session : Session σ) (index : String)
    {documents : List Document} (filled : documents ≠ []) :
    (session.absorb server index documents).2.catalog.selection.discovered = found documents ∧
      ((session.absorb server index documents).2.catalog.MarksActive (found documents) ↔
        found documents ≠ session.catalog.selection.discovered ∨
          session.catalog.MarksActive (found documents) ∧
            ∀ field ∈ found documents, field ∉ session.loadedFor server index documents) := by
  rw [absorb_eq]
  simp only [loadedFor]
  split
  · next known =>
      by_cases same : found documents = session.catalog.selection.discovered
      · rw [Catalog.absorb_of_unchanged (.inr same)]
        exact ⟨same.symm, by simp [same]⟩
      · obtain ⟨discovered, marks⟩ := Catalog.absorb_of_changed filled same
        exact ⟨discovered, iff_of_true marks (.inl same)⟩
  · next missing =>
      have selection : (session.loadMetadata server index).2.catalog.selection =
          session.catalog.selection := by
        obtain ⟨cache, loaded⟩ := session.loadMetadata_snd server index
        rw [loaded]
      by_cases same : found documents = session.catalog.selection.discovered
      · have stillSame := same
        rw [← selection] at stillSame
        rw [Catalog.absorb_of_unchanged (.inr stillSame), marksActive_loadMetadata_iff]
        exact ⟨stillSame.symm, by simp [same]⟩
      · have stillDifferent := same
        rw [← selection] at stillDifferent
        obtain ⟨discovered, marks⟩ := Catalog.absorb_of_changed filled stillDifferent
        exact ⟨discovered, iff_of_true marks (.inl same)⟩

/-- A search leaves the fields as they were, or takes in documents. -/
theorem search_cases (server : Server σ) (session : Session σ) (search : Search) :
    ((session.search server search).2.catalog = session.catalog ∧
      session.loaded server search = [] ∧
      ∀ result, (session.search server search).1 = .ok result → result.documents = []) ∨
    ∃ result, (session.search server search).1 = .ok result ∧ result.documents ≠ [] ∧
      (session.search server search).2.catalog.selection.discovered = found result.documents ∧
      ((session.search server search).2.catalog.MarksActive (found result.documents) ↔
        found result.documents ≠ session.catalog.selection.discovered ∨
          session.catalog.MarksActive (found result.documents) ∧
            ∀ field ∈ found result.documents, field ∉ session.loaded server search) := by
  rcases session.execute_cases server search.demand search.index search.patience with
    ⟨fault, compiled, executed⟩ | ⟨query, compiled, ⟨error, connection, failed, executed⟩ |
      ⟨retrieved, connection, succeeded, executed⟩⟩
  · left
    simp only [Session.search, executed, loaded, compiled]
    exact ⟨trivial, trivial, fun _ impossible => by cases impossible⟩
  · left
    simp only [Session.search, executed, loaded, compiled, failed]
    exact ⟨trivial, trivial, fun _ impossible => by cases impossible⟩
  · simp only [Session.search, executed, loaded, compiled, succeeded]
    by_cases empty : retrieved.documents = []
    · left
      rw [empty, absorb_eq]
      refine ⟨?_, rfl, fun result same => ?_⟩
      · exact Catalog.absorb_of_unchanged (.inl rfl)
      · cases same
        rfl
    · right
      obtain ⟨discovered, marks⟩ := Session.absorb_spec server { session with connection }
        (chosen search.index session.index) empty
      exact ⟨_, rfl, empty, discovered, marks⟩

/-- The discovered fields are marked active after a search that changes them, and after one that
finds them so and does not write their entries. -/
theorem flagsFollow_search_iff (server : Server σ) (session : Session σ) (search : Search) :
    (session.search server search).2.FlagsFollow ↔
      session.Rediscovers server search ∨
        session.FlagsFollow ∧ ¬session.Overwrites server search := by
  rcases session.search_cases server search with
    ⟨catalog, loaded, -⟩ | ⟨result, -, -, discovered, marks⟩
  · simp only [FlagsFollow, Rediscovers, Overwrites, catalog, loaded]
    simp
  · simp only [FlagsFollow, Rediscovers, Overwrites, discovered, marks]
    by_cases same : found result.documents = session.catalog.selection.discovered
    · simp [same]
    · simp [same]

theorem searchAll_append (searches more : List Search) :
    session.searchAll server (searches ++ more) =
      (session.searchAll server searches).searchAll server more := by
  simp only [searchAll, run, List.map_append, List.foldl_append]

/-- Whenever a search overwrites the entry of a discovered field, a later one discovers other
fields. -/
def OverwritesAreMended (server : Server σ) (session : Session σ) (searches : List Search) :
    Prop :=
  ∀ before search after, searches = before ++ search :: after →
    (session.searchAll server before).Overwrites server search →
    ∃ between change rest, after = between ++ change :: rest ∧
      (session.searchAll server (before ++ search :: between)).Rediscovers server change

private theorem split_append_singleton {α : Type} {items before after : List α} {item last : α}
    (split : items ++ [last] = before ++ item :: after) :
    (after = [] ∧ before = items ∧ item = last) ∨
      ∃ shorter, after = shorter ++ [last] ∧ items = before ++ item :: shorter := by
  rcases List.eq_nil_or_concat after with rfl | ⟨shorter, final, rfl⟩
  · obtain ⟨rfl, same⟩ := List.append_inj' split rfl
    cases same
    exact .inl ⟨rfl, rfl, rfl⟩
  · rw [List.concat_eq_append, ← List.cons_append, ← List.append_assoc] at split
    obtain ⟨rfl, same⟩ := List.append_inj' split rfl
    cases same
    exact .inr ⟨shorter, List.concat_eq_append, rfl⟩

theorem overwritesAreMended_append_iff (searches : List Search) (last : Search) :
    session.OverwritesAreMended server (searches ++ [last]) ↔
      (session.searchAll server searches).Rediscovers server last ∨
        session.OverwritesAreMended server searches ∧
          ¬(session.searchAll server searches).Overwrites server last := by
  constructor
  · intro mended
    by_cases changes : (session.searchAll server searches).Rediscovers server last
    · exact .inl changes
    · refine .inr ⟨?_, ?_⟩
      · rintro before search after rfl overwrites
        obtain ⟨between, change, rest, split, rediscovers⟩ :=
          mended before search (after ++ [last]) (by simp) overwrites
        rcases split_append_singleton split with ⟨-, rfl, rfl⟩ | ⟨rest, -, rfl⟩
        · exact absurd rediscovers changes
        · exact ⟨between, change, rest, rfl, rediscovers⟩
      · intro overwrites
        obtain ⟨between, change, rest, split, -⟩ := mended searches last [] rfl overwrites
        simp at split
  · rintro (changes | ⟨mended, keeps⟩) before search after split overwrites
    · rcases split_append_singleton split with ⟨-, rfl, rfl⟩ | ⟨after, rfl, rfl⟩
      · exact absurd changes overwrites.1
      · exact ⟨after, last, [], rfl, changes⟩
    · rcases split_append_singleton split with ⟨-, rfl, rfl⟩ | ⟨after, rfl, rfl⟩
      · exact absurd overwrites keeps
      · obtain ⟨between, change, rest, rfl, rediscovers⟩ :=
          mended before search after rfl overwrites
        exact ⟨between, change, rest ++ [last], by simp, rediscovers⟩

theorem flagsFollow_searchAll_iff (fresh : session.FlagsFollow) (searches : List Search) :
    (session.searchAll server searches).FlagsFollow ↔
      session.OverwritesAreMended server searches := by
  induction searches using List.reverseRecOn with
  | nil =>
      refine iff_of_true fresh fun before search after split => ?_
      simp at split
  | append_singleton searches last ih =>
      rw [searchAll_append, overwritesAreMended_append_iff, ← ih]
      exact flagsFollow_search_iff server _ last

theorem discovered_search {search : Search} {result : SearchResult} {after : Session σ}
    (returned : session.search server search = (.ok result, after))
    (filled : result.documents ≠ []) :
    after.catalog.selection.discovered = found result.documents := by
  rcases session.search_cases server search with ⟨-, -, empty⟩ | ⟨other, found, -, discovered, -⟩
  · rw [returned] at empty
    exact absurd (empty result rfl) filled
  · rw [returned] at found discovered
    cases found
    exact discovered

/-- In a run of searches from the start, the entries of the fields of the documents that the last
one returns are active exactly when every overwriting of such an entry is mended. -/
theorem flagsFollow_run_iff {config : Config} {index : Option String} {state : σ}
    (started : Session.start config index state = .ok session) (searches : List Search)
    (last : Search) {result : SearchResult} {after : Session σ}
    (returned : (session.searchAll server searches).search server last = (.ok result, after))
    (filled : result.documents ≠ []) :
    (∀ field ∈ found result.documents, ∀ metadata,
      after.catalog.cache.get? field = some metadata → metadata.active = true) ↔
      session.OverwritesAreMended server (searches ++ [last]) := by
  have fresh : session.FlagsFollow := by
    obtain ⟨_, _, opened⟩ := bind_eq_ok_iff.mp started
    cases opened
    intro field member
    cases member
  have follows : (session.searchAll server (searches ++ [last])).FlagsFollow ↔
      after.catalog.MarksActive (found result.documents) := by
    have reached : session.searchAll server (searches ++ [last]) = after := by
      rw [searchAll_append]
      exact congrArg Prod.snd returned
    rw [reached, FlagsFollow, discovered_search returned filled]
  exact follows.symm.trans (flagsFollow_searchAll_iff fresh _)

/-- A server with one document that does not answer the first request for metadata. -/
def slowToDescribe : Server Bool where
  search _ _ ready := (.ok ⟨[[("a", .int 1)]], 1⟩, ready)
  openScroll _ _ _ ready := (.ok (⟨[], 0⟩, .null), ready)
  scroll _ _ ready := (.ok ([], .null), ready)
  clearScroll _ ready := (.ok (), ready)
  fieldCapabilities _ _ ready :=
    if ready then (.ok (.obj [("fields", .obj [("a", .obj [("long", .obj [])])])]), true)
    else (.error (.failed "down"), true)
  indices _ ready := (.ok [], ready)

def everything : Search :=
  ⟨⟨[], none, some "", ⟨0, 0⟩⟩, none, .unlimited⟩

private theorem start_slowToDescribe : ∃ session result after,
    Session.start .standard none false = .ok session ∧
    (session.searchAll slowToDescribe [everything]).search slowToDescribe everything =
      (.ok result, after) ∧
    result.documents ≠ [] ∧ "a" ∈ found result.documents ∧
    ∃ metadata, after.catalog.cache.get? "a" = some metadata ∧ metadata.active = false := by
  have shown : (match (searchAll slowToDescribe
      ⟨.standard, "*", .empty, .start Config.standard.pacing false⟩ [everything]).search
        slowToDescribe everything with
    | (.ok result, after) =>
        decide (result.documents.length = 1 ∧ "a" ∈ found result.documents ∧
          (after.catalog.cache.get? "a").map Metadata.active = some false)
    | (.error _, _) => false) = true := by decide +kernel
  split at shown
  · next result after returned =>
      obtain ⟨one, member, inactive⟩ := of_decide_eq_true shown
      obtain ⟨metadata, known, active⟩ := Option.map_eq_some_iff.mp inactive
      refine ⟨_, result, after, start_standard none false, returned, ?_, member, metadata, known,
        active⟩
      intro empty
      rw [empty] at one
      cases one
  · cases shown

/-- The second of two equal searches loads the metadata of a field that was discovered before, and
the entry says that the field is not active. -/
theorem search_lateMetadata_inactive : ∃ session result after,
    Session.start .standard none false = .ok session ∧
    (session.searchAll slowToDescribe [everything]).search slowToDescribe everything =
      (.ok result, after) ∧
    result.documents ≠ [] ∧
    ∃ field ∈ found result.documents, ∃ metadata,
      after.catalog.cache.get? field = some metadata ∧ metadata.active = false := by
  obtain ⟨session, result, after, started, returned, filled, member, metadata, known, inactive⟩ :=
    start_slowToDescribe
  exact ⟨session, result, after, started, returned, filled, "a", member, metadata, known, inactive⟩

theorem flagsFollow_run_iff_slowToDescribe : ∃ session result after,
    Session.start .standard none false = .ok session ∧
    (session.searchAll slowToDescribe [everything]).search slowToDescribe everything =
      (.ok result, after) ∧
    result.documents ≠ [] ∧
    ((∀ field ∈ found result.documents, ∀ metadata,
      after.catalog.cache.get? field = some metadata → metadata.active = true) ↔
      session.OverwritesAreMended slowToDescribe ([everything] ++ [everything])) := by
  obtain ⟨session, result, after, started, returned, filled, -⟩ := start_slowToDescribe
  exact ⟨session, result, after, started, returned, filled,
    flagsFollow_run_iff started [everything] everything returned filled⟩

end Session

end FilterQuery
