import FilterQuery.Config.Basic
import FilterQuery.Session.Connection

/-!
# Retrieval

The documents of a query are retrieved by one request, or in batches through a scroll when they are
many. A scroll is cleared when its documents are no longer needed, whether or not all requests were
answered.
-/

set_option autoImplicit false

namespace FilterQuery

open Server

/-- Documents that were retrieved, the number of all that satisfy the query, and the attempts that
were made. -/
structure Retrieved where
  documents : List Document
  total : Int
  attempts : Nat

structure Collection where
  documents : List Document
  id : ScrollId
  attempts : Nat

namespace Connection

variable {σ : Type}

/-- Whether a collection has a scroll and fewer documents than are wanted. -/
def wantsMore (limit : Nat) (collection : Collection) : Bool :=
  collection.id.isTrue && collection.documents.length < limit

/-- Collects batches until there are enough documents, a batch is empty, or no scroll is held. The
collection is returned as far as it came, also when a request fails. -/
def collect (server : Server σ) (terms : Terms) (keepAlive : String) (limit : Nat)
    (collection : Collection) (connection : Connection σ) :
    Option RequestError × Collection × Connection σ :=
  if wantsMore limit collection then
    match connection.request terms
      ⟨.scroll collection.id keepAlive, server.scroll collection.id keepAlive⟩ with
    | (.error error, connection) => (some error, collection, connection)
    | (.ok ((batch, id), attempts), connection) =>
        let next : Collection :=
          ⟨collection.documents ++ batch, id, collection.attempts + attempts⟩
        if batch.isEmpty then (none, next, connection)
        else collect server terms keepAlive limit next connection
  else (none, collection, connection)
termination_by limit - collection.documents.length
decreasing_by
  rename_i wants filled
  have : batch.length ≠ 0 := by simpa using filled
  have : collection.documents.length < limit := by
    simp only [wantsMore, Bool.and_eq_true, decide_eq_true_eq] at wants
    exact wants.2
  simp only [List.length_append]
  omega

/-- Clears a scroll, if there is one. It does not matter whether the server does so. -/
def release (server : Server σ) (id : ScrollId) (connection : Connection σ) : Connection σ :=
  if id.isTrue then (connection.perform ⟨.clearScroll id, server.clearScroll id⟩).2
  else connection

def retrieveBatches (server : Server σ) (settings : SearchSettings) (terms : Terms)
    (index : String) (query : Query) (connection : Connection σ) :
    Except RequestError Retrieved × Connection σ :=
  let keepAlive := settings.scrollTimeout
  let batch := { query with size := settings.scrollBatchSize }
  match connection.request terms
    ⟨.openScroll index batch keepAlive, server.openScroll index batch keepAlive⟩ with
  | (.error error, connection) => (.error error, connection)
  | (.ok ((page, id), attempts), connection) =>
      match connection.collect server terms keepAlive query.size.toNat
        ⟨page.documents, id, attempts⟩ with
      | (some error, collection, connection) =>
          (.error error, connection.release server collection.id)
      | (none, collection, connection) =>
          (.ok ⟨collection.documents.take query.size.toNat, page.total, collection.attempts⟩,
            connection.release server collection.id)

def retrieve (server : Server σ) (settings : SearchSettings) (terms : Terms) (index : String)
    (query : Query) (connection : Connection σ) :
    Except RequestError Retrieved × Connection σ :=
  if settings.usesScroll query.size then
    connection.retrieveBatches server settings terms index query
  else
    match connection.request terms ⟨.search index query, server.search index query⟩ with
    | (.error error, connection) => (.error error, connection)
    | (.ok (page, attempts), connection) =>
        (.ok ⟨page.documents, page.total, attempts⟩, connection)

end Connection

end FilterQuery
