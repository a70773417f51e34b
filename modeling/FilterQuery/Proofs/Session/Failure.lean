import FilterQuery.Proofs.Session.Execution

/-!
# What failures leave alone

A search that fails leaves everything that a session knows as it was, however far it came. A refresh
that fails does so only in part: the entries of the built-in fields are written before the answer of
the server is read. Main statements: `Session.refresh_failure_keeps_iff` and
`Session.execute_failure_keeps`.
-/

set_option autoImplicit false

namespace FilterQuery

open Server Pacing FilterQuery.Field

namespace Session

variable {σ : Type} {server : Server σ} {session after : Session σ} {index : String}

theorem refresh_failure {fields : Option (List String)} {error : MetadataError}
    (failed : session.refresh server index fields = (.error error, after)) :
    ∃ connection,
      (∃ refusal, error = .unavailable refusal ∧ after = { session with connection }) ∨
      ∃ cause, error = .undecodable cause ∧ after = { session with
        connection
        catalog := { session.catalog with cache := session.catalog.cache.setDefaults } } := by
  obtain ⟨names, -, -, spared⟩ | ⟨-, refreshed⟩ := session.refresh_cases server index fields
  · rw [spared] at failed
    cases failed
  · rw [refreshed] at failed
    obtain ⟨answer, connection, -, ⟨refusal, -, loaded⟩ | ⟨response, cause, -, -, loaded⟩ |
      ⟨response, cache, count, -, -, loaded⟩⟩ := session.loadMetadata_cases server index
    · rw [loaded] at failed
      cases failed
      exact ⟨connection, .inl ⟨refusal, rfl, rfl⟩⟩
    · rw [loaded] at failed
      cases failed
      exact ⟨connection, .inr ⟨cause, rfl, rfl⟩⟩
    · rw [loaded] at failed
      cases failed

/-- A refresh that fails keeps the index, the selection and the entries of all fields that are not
built in. It keeps all entries exactly when the server refused to answer, or when the built-in
fields were known as nothing but the keywords that they are by default. -/
theorem refresh_failure_keeps_iff {fields : Option (List String)} {error : MetadataError}
    (failed : session.refresh server index fields = (.error error, after)) :
    after.index = session.index ∧ after.catalog.selection = session.catalog.selection ∧
      (∀ field, field ∉ Cache.builtIn →
        after.catalog.cache.get? field = session.catalog.cache.get? field) ∧
      ((∀ field, after.catalog.cache.get? field = session.catalog.cache.get? field) ↔
        (∃ refusal, error = .unavailable refusal) ∨
          ∀ field ∈ Cache.builtIn, session.catalog.cache.get? field = some .keyword) := by
  obtain ⟨connection, ⟨refusal, rfl, rfl⟩ | ⟨cause, rfl, rfl⟩⟩ := refresh_failure failed
  · exact ⟨rfl, rfl, fun _ _ => rfl, iff_of_true (fun _ => rfl) (.inl ⟨refusal, rfl⟩)⟩
  · refine ⟨rfl, rfl, fun _ absent => Cache.get?_setDefaults_of_not_mem _ absent, ?_⟩
    rw [session.catalog.cache.setDefaults_keeps_iff]
    refine ⟨.inr, fun known => known.resolve_left ?_⟩
    rintro ⟨refusal, impossible⟩
    cases impossible

/-- A server that loses its scrolls and gives out answers about fields one after the other. -/
def unsteady : Server (List (Except Refusal Json)) where
  search _ _ answers := (.ok ⟨[], 0⟩, answers)
  openScroll _ _ _ answers := (.ok (⟨[[("a", .int 1)]], 2⟩, .str "lost"), answers)
  scroll _ _ answers := (.error (.refused (.failed "no such scroll")), answers)
  clearScroll _ answers := (.ok (), answers)
  fieldCapabilities _ _
    | [] => (.error (.failed "silent"), [])
    | answer :: answers => (answer, answers)
  indices _ answers := (.ok [], answers)

/-- Two answers about fields: by the first one the built-in field `_id` is a text, and the second
one has no fields. -/
def unlikeAnswers : List (Except Refusal Json) :=
  [.ok (.obj [("fields", .obj [("_id", .obj [("text", .obj [])])])]), .ok .null]

/-- A second answer that cannot be read makes a session forget what the first one said. -/
theorem refresh_undecodable_forgets : ∃ fresh after : Session (List (Except Refusal Json)),
    Session.start .standard none unlikeAnswers = .ok fresh ∧
    (fresh.run unsteady [.refresh "*" none]).refresh unsteady "*" none =
      (.error (.undecodable .noFields), after) ∧
    (fresh.run unsteady [.refresh "*" none]).catalog.cache.get? "_id" =
      some ⟨.str "text", true, false, false⟩ ∧
    after.catalog.cache.get? "_id" = some .keyword :=
  ⟨_, _, start_standard none unlikeAnswers, rfl, rfl, rfl⟩

theorem refresh_failure_keeps_iff_unlikeAnswers :
    ∃ fresh after : Session (List (Except Refusal Json)),
      Session.start .standard none unlikeAnswers = .ok fresh ∧
      (fresh.run unsteady [.refresh "*" none]).refresh unsteady "*" none =
        (.error (.undecodable .noFields), after) ∧
      ((∀ field, after.catalog.cache.get? field =
          (fresh.run unsteady [.refresh "*" none]).catalog.cache.get? field) ↔
        (∃ refusal, MetadataError.undecodable .noFields = .unavailable refusal) ∨
          ∀ field ∈ Cache.builtIn,
            (fresh.run unsteady [.refresh "*" none]).catalog.cache.get? field = some .keyword) := by
  let fresh : Session (List (Except Refusal Json)) :=
    ⟨.standard, "*", .empty, .start Config.standard.pacing unlikeAnswers⟩
  have failed : (fresh.run unsteady [.refresh "*" none]).refresh unsteady "*" none =
      (.error (.undecodable .noFields),
        ((fresh.run unsteady [.refresh "*" none]).refresh unsteady "*" none).2) := rfl
  obtain ⟨-, -, -, keeps⟩ := refresh_failure_keeps_iff failed
  exact ⟨fresh, _, start_standard none unlikeAnswers, failed, keeps⟩

/-- A search that fails keeps the settings, the index and all that is known, found and selected of
fields. When it fails because it does not compile, nothing has happened at all. -/
theorem execute_failure_keeps {demand : Demand} {target : Option String} {patience : Patience}
    {error : SearchError}
    (failed : session.execute server demand target patience = (.error error, after)) :
    after.config = session.config ∧ after.index = session.index ∧
      after.catalog = session.catalog ∧
      ∀ fault, error = .query fault → session.compile demand = .error fault ∧ after = session := by
  obtain ⟨fault, refused, stopped⟩ | ⟨query, compiled, ⟨cause, connection, -, stopped⟩ |
    ⟨retrieved, connection, -, ended⟩⟩ := session.execute_cases server demand target patience
  · rw [stopped] at failed
    cases failed
    refine ⟨rfl, rfl, rfl, fun other same => ?_⟩
    cases same
    exact ⟨refused, rfl⟩
  · rw [stopped] at failed
    cases failed
    refine ⟨rfl, rfl, rfl, fun other impossible => ?_⟩
    cases impossible
  · rw [ended] at failed
    cases failed

deriving instance DecidableEq for SearchError

/-- A session that knows a field, has found and selected it, and searches in batches. -/
def acquainted : Session (List (Except Refusal Json)) :=
  let config :=
    { Config.standard with search := { Config.standard.search with largeResultLimit := 0 } }
  ⟨config, "*", ⟨⟨[("a", ⟨.str "long", true, true, true⟩)]⟩, ⟨["a"], ["a"], ["a"], "", []⟩⟩,
    .start config.pacing []⟩

theorem execute_failure_keeps_lostScroll : ∃ after,
    acquainted.execute unsteady ⟨["a=1"], none, none, ⟨0, 0⟩⟩ none .unlimited =
      (.error (.request (.failed "no such scroll")), after) ∧
    after.index = "*" ∧ after.catalog = acquainted.catalog := by
  have lost : (acquainted.execute unsteady ⟨["a=1"], none, none, ⟨0, 0⟩⟩ none .unlimited).1 =
      .error (.request (.failed "no such scroll")) :=
    error?_eq_some_iff.mp (by decide +kernel)
  cases ended : acquainted.execute unsteady ⟨["a=1"], none, none, ⟨0, 0⟩⟩ none .unlimited with
  | mk outcome after =>
      rw [ended] at lost
      obtain rfl : outcome = .error (.request (.failed "no such scroll")) := lost
      obtain ⟨-, index, catalog, -⟩ := execute_failure_keeps ended
      exact ⟨after, rfl, index, catalog⟩

end Session

end FilterQuery
