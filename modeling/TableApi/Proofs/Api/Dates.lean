import TableApi.Api.Site
import TableApi.Proofs.Api.Destinations
import TableApi.Proofs.Filter.Allowed
import TableApi.Proofs.Json.Quoted
import TableApi.Proofs.Store.Execution

namespace TableApi.Api

open TableApi.Filter (InvalidDate Parameters Translation)
open Store (Page RecordStore Service)

/-- What a refusal says before its message, and between the message and the field. -/
def beforeMessage : List Json.Token :=
  [.openBrace, .str "error", .colon, .openBrace, .str "code", .colon, .str "GEN-UNPROCESSABLE",
    .comma, .str "http_code", .colon, .int 422, .comma, .str "message", .colon]

def beforeField : List Json.Token := [.comma, .str "errors", .colon, .openBrace]

theorem tokens_ofInvalidDate (e : InvalidDate) :
    (Failure.ofInvalidDate e).json.tokens =
      beforeMessage ++ .str e.message :: (beforeField ++ .str e.field :: [.colon, .openBracket,
        .str e.message, .closeBracket, .closeBrace, .closeBrace, .closeBrace]) := by
  rfl

theorem body_ofInvalidDate (e : InvalidDate) :
    ∃ rest, (Failure.ofInvalidDate e).response.body.toList =
      beforeMessage.flatMap Json.Token.text ++ (Json.quoted e.message ++
        (beforeField.flatMap Json.Token.text ++ (Json.quoted e.field ++ rest))) := by
  rw [Failure.response, Response.json, Json.render, tokens_ofInvalidDate, String.toList_ofList,
    List.flatMap_append, List.flatMap_cons, List.flatMap_append, List.flatMap_cons]
  exact ⟨_, rfl⟩

/-- Two refusals with one body are for the same field and value. -/
theorem ofInvalidDate_inj {e e' : InvalidDate}
    (h : (Failure.ofInvalidDate e).response.body = (Failure.ofInvalidDate e').response.body) :
    e = e' := by
  obtain ⟨rest, hbody⟩ := body_ofInvalidDate e
  obtain ⟨rest', hbody'⟩ := body_ofInvalidDate e'
  rw [← h, hbody] at hbody'
  -- the message stands quoted behind what all refusals begin with, and the field behind it
  obtain ⟨hmessage, htail⟩ := Json.quoted_append_inj (List.append_cancel_left hbody')
  obtain ⟨hfield, -⟩ := Json.quoted_append_inj (List.append_cancel_left htail)
  obtain ⟨field, value⟩ := e
  obtain ⟨field', value'⟩ := e'
  obtain rfl : field = field' := hfield
  -- messages about one field differ in their last part only
  have hvalue : value.toList = value'.toList := by
    have hchars := congrArg String.toList hmessage
    simpa only [InvalidDate.message, String.toList_append, List.append_assoc,
      List.append_cancel_left_eq] using hchars
  obtain rfl := String.toList_inj.1 hvalue
  rfl

def Response.RefusesDate (response : Response) (e : InvalidDate) : Prop :=
  response.status = 422 ∧ response.body = (Failure.ofInvalidDate e).response.body

theorem refusesDate_ofInvalidDate (e e' : InvalidDate) :
    (Failure.ofInvalidDate e).response.RefusesDate e' ↔ e = e' := by
  constructor
  · rintro ⟨-, hbody⟩
    exact ofInvalidDate_inj hbody
  · rintro rfl
    exact ⟨rfl, rfl⟩

def withoutPaging (pairs : List (String × String)) : List (String × String) :=
  pairs.filter fun p => !pagingNames.contains (Parameters.nameOf p)

namespace Resource

theorem translate_congr (r : Resource) {pairs pairs' : List (String × String)}
    (h : withoutPaging pairs = withoutPaging pairs') :
    r.translate (Parameters.ofPairs pairs) = r.translate (Parameters.ofPairs pairs') := by
  calc r.translate (Parameters.ofPairs pairs)
    _ = Filter.translate r.fields Filter.calendarReader
        (Parameters.ofPairs (withoutPaging pairs)) := r.translate_ofPairs pairs
    _ = Filter.translate r.fields Filter.calendarReader
        (Parameters.ofPairs (withoutPaging pairs')) := by rw [h]
    _ = r.translate (Parameters.ofPairs pairs') := (r.translate_ofPairs pairs').symm

section

variable {m : Type → Type} [Monad m] (r : Resource) (store : RecordStore m)

def listTranslated (req : Request) (page : Page) (t : Translation) : m Response := do
  match ← store.list r.table (r.query req t) page with
  | .error _ => return Failure.storeFailed.response
  | .ok (records, total) => return r.listing req page records total

variable [LawfulMonad m] {r} {req : Request} {page : Page} (hpage : r.listedPage req = .ok page)

include hpage

/-- Once its parameters are translated, the listing can only fail in the store. -/
theorem index_of_ok {t : Translation}
    (h : (r.translate (Parameters.ofPairs req.pairs)).result = .ok t) :
    r.index store req = (do
      let response ← r.listTranslated store req page t
      return { response, warnings := (r.translate (Parameters.ofPairs req.pairs)).warnings }) := by
  simp only [index, listTranslated, hpage, h, bind_assoc]
  -- both ask the store for the same page, so only what is made of its answer is left
  congr 1
  funext listed
  cases listed with
  | error e => rfl
  | ok found => rfl

theorem index_of_error {e : InvalidDate}
    (h : (r.translate (Parameters.ofPairs req.pairs)).result = .error e) :
    r.index store req = pure {
      response := (Failure.ofInvalidDate e).response
      warnings := (r.translate (Parameters.ofPairs req.pairs)).warnings } := by
  simp only [index, hpage, h, pure_bind]

end

section

variable {r : Resource} {σ : Type} (store : RecordStore (StateM σ)) (c : σ)

theorem status_listTranslated (req : Request) (page : Page) (t : Translation) :
    ((r.listTranslated store req page t).run c).1.status ≠ 422 := by
  unfold listTranslated
  rw [Store.run_bind]
  generalize (store.list r.table (r.query req t) page).run c = listed
  obtain ⟨_ | _, c'⟩ := listed
  · exact (by decide : Failure.storeFailed.response.status ≠ 422)
  · exact (by decide : 200 ≠ 422)

variable {req : Request} {page : Page} (hpage : r.listedPage req = .ok page)

include hpage

/-- A listing is refused for a date just when the translation stops at it. -/
theorem refusesDate_index_iff (e : InvalidDate) :
    ((r.index store req).run c).1.response.RefusesDate e ↔
      (r.translate (Parameters.ofPairs req.pairs)).result = .error e := by
  cases h : (r.translate (Parameters.ofPairs req.pairs)).result with
  | error e' =>
    rw [index_of_error store hpage h, Except.error.injEq]
    exact refusesDate_ofInvalidDate e' e
  | ok t =>
    rw [index_of_ok store hpage h]
    refine iff_of_false ?_ (by simp)
    rintro ⟨hstatus, -⟩
    exact status_listTranslated store c req page t hstatus

/-- No other failure of a listing has the status 422. -/
theorem status_index_iff :
    ((r.index store req).run c).1.response.status = 422 ↔
      ∃ e, (r.translate (Parameters.ofPairs req.pairs)).result = .error e := by
  constructor
  · intro hstatus
    cases h : (r.translate (Parameters.ofPairs req.pairs)).result with
    | error e => exact ⟨e, rfl⟩
    | ok t =>
      rw [index_of_ok store hpage h] at hstatus
      exact absurd hstatus (status_listTranslated store c req page t)
  · rintro ⟨e, h⟩
    exact ((refusesDate_index_iff store c hpage e).2 h).1

end

end Resource

namespace Site

variable (s : Site) {req : Request} (reply : Reply)

theorem status_finish : (s.finish req reply).response.status = reply.response.status := by
  unfold finish trimHead Response.compress
  split_ifs <;> rfl

theorem body_finish (h : req.method ≠ "HEAD") :
    (s.finish req reply).response.body = reply.response.body := by
  unfold finish trimHead Response.compress
  split_ifs <;> rfl

theorem refusesDate_finish (h : req.method ≠ "HEAD") (e : InvalidDate) :
    (s.finish req reply).response.RefusesDate e ↔ reply.response.RefusesDate e := by
  unfold Response.RefusesDate
  rw [s.status_finish, s.body_finish reply h]

end Site

end TableApi.Api
