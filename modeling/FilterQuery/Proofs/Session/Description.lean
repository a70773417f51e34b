import FilterQuery.Proofs.Field.Capabilities
import FilterQuery.Proofs.Field.Path
import FilterQuery.Proofs.Session.Accounting
import FilterQuery.Proofs.Text.Order

/-!
# Metadata of new fields

Metadata is asked for once, after everything else, when a search finds fields that nothing is known
about. Nothing is known afterwards about those that the response does not describe. Main statement:
`Session.execute_describes`.
-/

set_option autoImplicit false

namespace FilterQuery

open Server Pacing FilterQuery.Field

variable {σ : Type}

namespace Field

theorem Cache.written_of_listed {members fields : Json.Members}
    (listed : members.get? "fields" = some (.obj fields)) :
    Cache.written (.ok (.obj members)) = builtIn ++ describedNames fields := by
  simp only [Cache.written, Json.members?, Option.bind_some, listed]

theorem Cache.holds_eq_false_iff {cache : Cache} {field : String} :
    cache.holds field = false ↔ cache.get? field = none := by
  simp [Cache.holds]

/-- Fields that are brought up to date are known as far as they were known before. -/
theorem Catalog.get?_absorb_eq_none_iff (catalog : Catalog) (documents : List Document)
    (field : String) : (catalog.absorb documents).2.cache.get? field = none ↔
      catalog.cache.get? field = none := by
  simp only [Catalog.absorb]
  split
  · simp only [Cache.get?_markActive]
    split <;> simp
  · rfl

end Field

namespace Session

theorem get?_loadMetadata_eq_none_iff (server : Server σ) (session : Session σ)
    (index field : String) :
    (session.loadMetadata server index).2.catalog.cache.get? field = none ↔
      field ∉ Cache.written (server.fieldCapabilities index "*" session.connection.server).1 ∧
        session.catalog.cache.get? field = none := by
  obtain ⟨written, kept⟩ := session.loadMetadata_spec server index field
  by_cases member : field ∈ Cache.written
      (server.fieldCapabilities index "*" session.connection.server).1
  · obtain ⟨metadata, known, -⟩ := written member
    simp [known, member]
  · simp [kept member, member]

theorem get?_absorb_eq_none_iff (server : Server σ) (session : Session σ) (index : String)
    (documents : List Document) (field : String) :
    (session.absorb server index documents).2.catalog.cache.get? field = none ↔
      (session.catalog.cache.missing (found documents) ≠ [] →
        field ∉ Cache.written (server.fieldCapabilities index "*" session.connection.server).1) ∧
      session.catalog.cache.get? field = none := by
  simp only [absorb_eq, Catalog.get?_absorb_eq_none_iff]
  split
  · next known => simp [known]
  · next missing => simp [missing, get?_loadMetadata_eq_none_iff]

/-- What a search that returned found out about fields: which of them are new, when it asked for
metadata, and what is still not known when the answer could be read. -/
structure FindsOut (server : Server σ) (session : Session σ) (index : String)
    (result : SearchResult) (after : Session σ) : Prop where
  sorted : result.newFields.Pairwise (· < ·)
  mem_newFields_iff : ∀ field, field ∈ result.newFields ↔
    (∃ document ∈ result.documents, HasLeaf "" (.obj document) field) ∧
      session.catalog.cache.get? field = none
  keeps : ∀ field, session.catalog.cache.holds field = true →
    after.catalog.cache.holds field = true
  asks : ∃ calls, session.connection.Makes server
      (calls ++ if result.newFields = [] then [] else [.fieldCapabilities index "*"])
      after.connection ∧
    (∀ call ∈ calls, call.describes = false) ∧
    ∀ (members fields : Json.Members), result.newFields ≠ [] →
      (server.fieldCapabilities index "*"
        (server.afterAll session.connection.server calls)).1 = .ok (.obj members) →
      members.get? "fields" = some (.obj fields) → ∀ field,
        ((∃ document ∈ result.documents, HasLeaf "" (.obj document) field) ∧
            after.catalog.cache.get? field = none ↔
          field ∈ result.newFields ∧ field ≠ "_id" ∧ field ≠ "_index" ∧ ¬Describes fields field)

theorem absorb_findsOut (server : Server σ) (session : Session σ) (index : String)
    {calls : List (Call Query)} {connection : Connection σ} {result : SearchResult}
    (made : session.connection.Makes server calls connection)
    (other : ∀ call ∈ calls, call.describes = false)
    (newFields : result.newFields = session.catalog.cache.missing (found result.documents)) :
    session.FindsOut server index result
      ({ session with connection }.absorb server index result.documents).2 := by
  have new (field : String) : field ∈ result.newFields ↔
      (∃ document ∈ result.documents, HasLeaf "" (.obj document) field) ∧
        session.catalog.cache.get? field = none := by
    rw [newFields, Cache.mem_missing_iff, mem_found_iff, Cache.holds_eq_false_iff]
  have unknown := get?_absorb_eq_none_iff server { session with connection } index result.documents
  refine ⟨?_, new, fun field known => ?_, calls, ?_, other, ?_⟩
  · rw [newFields]
    exact (Text.pairwise_distinct _).filter _
  · rw [← Bool.not_eq_false, Cache.holds_eq_false_iff] at known ⊢
    exact fun none => known ((unknown field).mp none).2
  · obtain ⟨cache, absorbed⟩ := { session with connection }.absorb_snd server index result.documents
    rw [absorbed, ← newFields]
    dsimp only
    split
    · rw [List.append_nil]
      exact made
    · exact made.trans (Connection.makes_perform (server.metadata index) fun _ => rfl)
  · intro members fields some answered listed field
    have reached : connection.server = server.afterAll session.connection.server calls :=
      made.reached
    rw [unknown, new]
    simp only [← newFields, reached, answered, Cache.written_of_listed listed, List.mem_append,
      mem_describedNames_iff, Cache.builtIn, List.mem_cons, List.not_mem_nil, or_false, not_or]
    constructor
    · rintro ⟨leaf, absent, before⟩
      obtain ⟨⟨notId, notIndex⟩, undescribed⟩ := absent some
      exact ⟨⟨leaf, before⟩, notId, notIndex, undescribed⟩
    · rintro ⟨⟨leaf, before⟩, notId, notIndex, undescribed⟩
      exact ⟨leaf, fun _ => ⟨⟨notId, notIndex⟩, undescribed⟩, before⟩

/-- A search asks for metadata exactly when it finds a field that nothing is known about. -/
theorem execute_describes (server : Server σ) (session : Session σ) (demand : Demand)
    (index : Option String) (patience : Patience) {result : SearchResult} {after : Session σ}
    (executed : session.execute server demand index patience = (.ok result, after)) :
    session.FindsOut server (chosen index session.index) result after := by
  obtain ⟨fault, -, stopped⟩ | ⟨query, -, ⟨error, connection, -, stopped⟩ |
    ⟨retrieved, connection, succeeded, ended⟩⟩ :=
    execute_cases server session demand index patience
  · cases stopped.symm.trans executed
  · cases stopped.symm.trans executed
  · obtain ⟨rounds, asides, planned, ⟨last, follows, makes, -⟩, clearing, -⟩ :=
      Connection.retrieve_follows server session.config.search
        ⟨session.config.search.maxRetries.toNat, patience⟩ (chosen index session.index) query
        session.connection
    have made := follows.makes.trans makes
    rw [succeeded] at made
    have other : ∀ call ∈ rounds.flatMap Round.calls ++ asides, call.describes = false := by
      refine List.forall_mem_append.mpr ⟨fun call member => ?_, fun call member => ?_⟩
      · obtain ⟨round, among, member⟩ := List.mem_flatMap.mp member
        have paced := planned.isPaced round among
        rw [← List.eq_of_mem_replicate member] at paced
        refine Bool.eq_false_iff.mpr fun describes => ?_
        rw [isPaced_of_describes describes] at paced
        cases paced
      · obtain ⟨id, rfl⟩ := clearing call member
        rfl
    cases ended.symm.trans executed
    exact absorb_findsOut server session _ made other rfl

/-- A server of one document that describes only one of its two fields. -/
def reticent : Server Unit where
  search _ _ _ := (.ok ⟨[[("a", .int 1), ("b", .obj [("c", .int 2)])]], 1⟩, ())
  openScroll _ _ _ _ := (.error (.refused (.failed "no scroll")), ())
  scroll _ _ _ := (.error (.refused (.failed "no scroll")), ())
  clearScroll _ _ := (.ok (), ())
  fieldCapabilities _ _ _ :=
    (.ok (.obj [("fields", .obj [("a", .obj [("long", .obj [])]), ("b.c", .obj [])])]), ())
  indices _ _ := (.ok [], ())

def guest : Session Unit :=
  ⟨.standard, "*", .empty, .start Config.standard.pacing ()⟩

theorem execute_describes_reticent :
    ∃ result after, guest.execute reticent ⟨[], none, some "", ⟨0, 0⟩⟩ none .unlimited =
        (.ok result, after) ∧
      guest.FindsOut reticent "*" result after ∧ result.newFields = ["a", "b.c"] ∧
      after.catalog.cache.get? "b.c" = none := by
  have returns : (guest.execute reticent ⟨[], none, some "", ⟨0, 0⟩⟩ none
      .unlimited).1.toOption.map SearchResult.newFields = some ["a", "b.c"] := by decide +kernel
  have unknown : (guest.execute reticent ⟨[], none, some "", ⟨0, 0⟩⟩ none
      .unlimited).2.catalog.cache.get? "b.c" = none := by decide +kernel
  cases executed : guest.execute reticent ⟨[], none, some "", ⟨0, 0⟩⟩ none .unlimited with
  | mk outcome after =>
      rw [executed] at returns unknown
      cases outcome with
      | error error => cases returns
      | ok result =>
          exact ⟨result, after, rfl, execute_describes reticent guest _ none .unlimited executed,
            Option.some.inj returns, unknown⟩

end Session

end FilterQuery
