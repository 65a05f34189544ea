import Mathlib.Data.Prod.Lex
import GearshPayments.Keyset
import GearshPayments.JavaScript.Buffer
import GearshPayments.JavaScript.Date
import GearshPayments.JavaScript.JsonParse
import GearshPayments.PayFast.Client
import GearshPayments.Resumption.Run

/-!
# Pages of a list

`common/pagination.ts` and the lists that use it.  Rows are listed from the latest to the
earliest, and those of the same instant by their ids; a cursor is the instant and the id of the
last row of a page, written as JSON in base64.
-/

namespace GearshPayments

open JavaScript (Text Json NumberFormat text utf16 scalarValues)

/-! ## `common/pagination.ts` -/

structure PageInfo where
  nextCursor : Option Text
  hasNextPage : Bool
deriving DecidableEq

structure Page (ρ : Type) where
  data : List ρ
  pageInfo : PageInfo

/-- A `Date` that is not valid is `none`. -/
structure DecodedCursor where
  createdAt : Option ℤ
  id : Text
deriving DecidableEq

def defaultLimit : ℕ := 25

def maxLimit : ℕ := 100

/-- `none` is for `undefined`. -/
def clampLimit : Option ℤ → ℕ
  | none => defaultLimit
  | some limit => if limit = 0 ∨ limit < 1 then defaultLimit else min limit.toNat maxLimit

/-- Numbers, and what the platform makes of input that it has not written itself: text that is
not base64, bytes that are not UTF-8, and dates in other formats. -/
structure Platform (ν : Type) where
  numbers : NumberFormat ν
  numeral : Text → ν
  otherBase64 : Text → List UInt8
  otherUtf8 : List UInt8 → Text
  otherDate : List Char → Option ℤ

/-- How the database writes ids, and reads those that a query compares with. -/
structure IdFormat where
  write : ℕ → Text
  read : Text → Option ℕ
  read_write : ∀ id, read (write id) = some id

section Cursors

variable {ν : Type} (platform : Platform ν)

def encodeCursor (createdAt : ℤ) (id : Text) : Text :=
  JavaScript.Buffer.toBase64url (JavaScript.Buffer.fromText (Json.stringify platform.numbers
    (.obj [(text "c", .str (utf16 (JavaScript.Date.toISOString createdAt))), (text "i", .str id)])))

/-- The fields of a parsed cursor, if they are strings. -/
def readCursor (parsed : Json ν) : Option DecodedCursor :=
  match parsed.get (text "c"), parsed.get (text "i") with
  | some (.str c), some (.str i) =>
    some ⟨JavaScript.Date.parse platform.otherDate (scalarValues c), i⟩
  | _, _ => none

def decodeCursor (cursor : Option Text) : Option DecodedCursor :=
  match cursor with
  | none => none
  | some cursor =>
    if cursor = [] then none
    else
      let bytes := JavaScript.Buffer.fromBase64url platform.otherBase64 cursor
      match Json.parse platform.numeral (JavaScript.Buffer.toText platform.otherUtf8 bytes) with
      | none => none
      | some parsed => readCursor platform parsed

def buildPage {ρ : Type} (createdAt : ρ → ℤ) (id : ρ → Text) (rows : List ρ) (limit : ℕ) : Page ρ :=
  let hasNextPage : Bool := rows.length > limit
  let data := if hasNextPage then rows.take limit else rows
  let last := data.getLast?
  { data
    pageInfo :=
      { hasNextPage
        nextCursor :=
          if hasNextPage then last.map fun last ↦ encodeCursor platform (createdAt last) (id last)
          else none } }

end Cursors

/-! ## Lists -/

/-- A table that is listed. -/
structure Listing (ρ : Type) where
  rows : Store → List ρ
  createdAt : ρ → ℕ
  id : ρ → ℕ

namespace Listing

variable {ν ρ : Type} (platform : Platform ν) (ids : IdFormat) (L : Listing ρ)

/-- What rows are ordered by. -/
def key (r : ρ) : ℤ ×ₗ ℕ := toLex ((L.createdAt r : ℤ), L.id r)

/-- The condition that a cursor adds to a query. -/
def afterCursor (cursor : Option (ℤ × ℕ)) (r : ρ) : Prop :=
  match cursor with
  | none => True
  | some (createdAt, id) =>
    (L.createdAt r : ℤ) < createdAt ∨ (L.createdAt r : ℤ) = createdAt ∧ L.id r < id

instance (cursor : Option (ℤ × ℕ)) : DecidablePred (L.afterCursor cursor) := fun _ ↦
  match cursor with
  | none => inferInstanceAs (Decidable True)
  | some (_, _) => inferInstanceAs (Decidable (_ ∨ _))

/-- `findMany`, from the greatest key down. -/
def findMany (filter : ρ → Bool) (cursor : Option (ℤ × ℕ)) (take : ℕ) (s : Store) : List ρ :=
  (((L.rows s).filter fun r ↦ filter r ∧ L.afterCursor cursor r).insertionSort
    fun a b ↦ L.key b ≤ L.key a).take take

/-- What a query compares with.  It is refused if there is no such instant or no such id. -/
def cursorValues : Option DecodedCursor → Except Failure (Option (ℤ × ℕ))
  | none => .ok none
  | some ⟨none, _⟩ => .error (.database "Provided Date object is invalid. Expected Date.")
  | some ⟨some createdAt, id⟩ =>
    match ids.read id with
    | none => .error (.prisma .p2023)
    | some id => .ok (some (createdAt, id))

/-- The rows that pass the filter, as the services list them. -/
def list (filter : ρ → Bool) (limit : Option ℤ) (cursor : Option Text) : Service (Page ρ) := do
  let limit := clampLimit limit
  let cursor ← Resumption.ofExcept (cursorValues ids (decodeCursor platform cursor))
  let rows ← Resumption.read (L.findMany filter cursor (limit + 1))
  return buildPage platform (fun r ↦ L.createdAt r) (fun r ↦ ids.write (L.id r)) rows limit

end Listing

def holdListing : Listing EscrowHold := ⟨Store.escrowHolds, EscrowHold.createdAt, EscrowHold.id⟩

def payoutListing : Listing Payout := ⟨Store.payouts, Payout.createdAt, Payout.id⟩

def methodListing : Listing ArtistPayoutMethod :=
  ⟨Store.artistPayoutMethods, ArtistPayoutMethod.createdAt, ArtistPayoutMethod.id⟩

structure ListHoldsQuery where
  artistId : Option ℕ
  state : Option EscrowState
  limit : Option ℤ
  cursor : Option Text

/-- `createdFrom` and `createdTo` are `from` and `to`. -/
structure ListPayoutsQuery where
  state : Option PayoutState
  artistUserId : Option ℕ
  createdFrom : Option ℤ
  createdTo : Option ℤ
  limit : Option ℤ
  cursor : Option Text

structure ListPayoutMethodsQuery where
  isVerified : Option Bool
  limit : Option ℤ
  cursor : Option Text

section Lists

variable {ν : Type} (platform : Platform ν) (ids : IdFormat)

def ListHoldsQuery.selects (query : ListHoldsQuery) (hold : EscrowHold) : Bool :=
  (query.artistId.all fun artistId ↦ hold.artistId = artistId) ∧
    query.state.all fun state ↦ hold.state = state

def EscrowService.list (query : ListHoldsQuery) : Service (Page EscrowHold) :=
  holdListing.list platform ids query.selects query.limit query.cursor

def ListPayoutsQuery.selects (query : ListPayoutsQuery) (payout : Payout) : Bool :=
  (query.state.all fun state ↦ payout.state = state) ∧
    (query.artistUserId.all fun artistId ↦ payout.artistId = artistId) ∧
    (query.createdFrom.all fun instant ↦ instant ≤ (payout.createdAt : ℤ)) ∧
    query.createdTo.all fun instant ↦ (payout.createdAt : ℤ) ≤ instant

def PayoutsService.list (query : ListPayoutsQuery) : Service (Page Payout) :=
  payoutListing.list platform ids query.selects query.limit query.cursor

def ListPayoutMethodsQuery.selects (query : ListPayoutMethodsQuery) (method : ArtistPayoutMethod) :
    Bool :=
  query.isVerified.all fun isVerified ↦ method.isVerified = isVerified

def PayoutMethodsService.listForAdmin (query : ListPayoutMethodsQuery) :
    Service (Page ArtistPayoutMethod) :=
  methodListing.list platform ids query.selects query.limit query.cursor

end Lists

open Resumption

/-! ## Cursors -/

section Cursors

variable {ν : Type} (platform : Platform ν)

theorem clampLimit_pos (limit : Option ℤ) : 0 < clampLimit limit := by
  cases limit with
  | none => decide
  | some limit =>
      rw [clampLimit]
      split
      · decide
      · exact Nat.lt_min.mpr ⟨by omega, by decide⟩

theorem toText_encodeCursor (createdAt : ℤ) (id : Text) :
    JavaScript.Buffer.toText platform.otherUtf8
        (JavaScript.Buffer.fromBase64url platform.otherBase64
          (encodeCursor platform createdAt id)) =
      Json.stringify platform.numbers
        (.obj (Json.fields [(text "c", utf16 (JavaScript.Date.toISOString createdAt)),
          (text "i", id)])) := by
  have hformed := Json.wellFormed_stringify_fields platform.numbers
    [(text "c", utf16 (JavaScript.Date.toISOString createdAt)), (text "i", id)]
  rw [encodeCursor, JavaScript.Buffer.fromBase64url_toBase64url]
  exact JavaScript.Buffer.toText_fromText _ hformed

theorem encodeCursor_ne_nil (createdAt : ℤ) (id : Text) :
    encodeCursor platform createdAt id ≠ [] := by
  intro h
  have htext := toText_encodeCursor platform createdAt id
  rw [h] at htext
  cases htext

/-- A cursor is read back as what it was made from. -/
theorem decodeCursor_encodeCursor {createdAt : ℤ} (h : JavaScript.Date.IsTime createdAt)
    (id : Text) :
    decodeCursor platform (some (encodeCursor platform createdAt id)) =
      some ⟨some createdAt, id⟩ := by
  rw [decodeCursor]
  dsimp only
  rw [if_neg (encodeCursor_ne_nil platform createdAt id), toText_encodeCursor,
    Json.parse_stringify_fields]
  show some (DecodedCursor.mk (JavaScript.Date.parse platform.otherDate (scalarValues
    (utf16 (JavaScript.Date.toISOString createdAt)))) id) = _
  rw [JavaScript.scalarValues_utf16, JavaScript.Date.parse_toISOString h]

end Cursors

/-! ## Lists as pages of a table -/

namespace Listing

variable {ν ρ : Type} (platform : Platform ν) (ids : IdFormat) (L : Listing ρ)

/-- The rows that pass the filter. -/
def selected (filter : ρ → Bool) (s : Store) : List ρ := (L.rows s).filter filter

/-- No two rows have the same id, and all instants are those of a `Date`. -/
structure Sound (s : Store) : Prop where
  ids : ((L.rows s).map L.id).Nodup
  instants : ∀ r ∈ L.rows s, JavaScript.Date.IsTime (L.createdAt r)

/-- The cursor of a key. -/
def writeKey (k : ℤ ×ₗ ℕ) : Text := encodeCursor platform (ofLex k).1 (ids.write (ofLex k).2)

variable {L}

theorem Sound.nodup_key {s : Store} (h : L.Sound s) (filter : ρ → Bool) :
    ((L.selected filter s).map L.key).Nodup := by
  have hids : ((L.selected filter s).map L.id).Nodup := h.ids.sublist (List.filter_sublist.map _)
  refine List.Nodup.of_map (fun k ↦ (ofLex k).2) ?_
  rwa [List.map_map]

/-- The condition of a cursor is that the key is below. -/
theorem below_iff (cursor : Option (ℤ ×ₗ ℕ)) (r : ρ) :
    Keyset.Below L.key cursor r ↔ L.afterCursor (cursor.map ofLex) r := by
  cases cursor with
  | none => exact Iff.rfl
  | some k => exact Prod.Lex.toLex_lt_toLex

theorem findMany_eq (filter : ρ → Bool) (cursor : Option (ℤ ×ₗ ℕ)) (take : ℕ) (s : Store) :
    L.findMany filter (cursor.map ofLex) take s =
      (Keyset.rest L.key cursor (L.selected filter s)).take take := by
  rw [findMany, Keyset.rest, selected, List.filter_filter]
  refine congrArg (fun rows ↦ (List.insertionSort (fun a b ↦ L.key b ≤ L.key a) rows).take take) ?_
  refine List.filter_congr fun r _ ↦ ?_
  rw [Bool.decide_and, Bool.decide_eq_true, Bool.and_comm]
  exact congrArg (· && filter r) (decide_eq_decide.mpr (below_iff cursor r).symm)

theorem cursorValues_writeKey {cursor : Option (ℤ ×ₗ ℕ)}
    (h : ∀ k ∈ cursor, JavaScript.Date.IsTime (ofLex k).1) :
    cursorValues ids (decodeCursor platform (cursor.map (writeKey platform ids))) =
      .ok (cursor.map ofLex) := by
  cases cursor with
  | none => rfl
  | some k =>
      rw [Option.map_some, writeKey, decodeCursor_encodeCursor platform (h k rfl), cursorValues,
        ids.read_write]
      rfl

/-- The page that is built from the rows found is the page of the table. -/
theorem buildPage_rest {limit : ℕ} (hlimit : 0 < limit) (cursor : Option (ℤ ×ₗ ℕ)) (rows : List ρ) :
    let page := Keyset.page L.key limit cursor rows
    buildPage platform (fun r ↦ L.createdAt r) (fun r ↦ ids.write (L.id r))
        ((Keyset.rest L.key cursor rows).take (limit + 1)) limit =
      ⟨page.data, ⟨page.next.map (writeKey platform ids), page.next.isSome⟩⟩ := by
  intro page
  have hdata : page.data = (Keyset.rest L.key cursor rows).take limit := Keyset.page_data
  have hnext : page.next = if limit < (Keyset.rest L.key cursor rows).length then
      ((Keyset.rest L.key cursor rows).take limit).getLast?.map L.key else none := Keyset.page_next
  have hlength : ((Keyset.rest L.key cursor rows).take (limit + 1)).length > limit ↔
      limit < (Keyset.rest L.key cursor rows).length := by
    rw [List.length_take]
    omega
  rw [hdata, hnext]
  unfold buildPage
  dsimp only
  by_cases hlong : limit < (Keyset.rest L.key cursor rows).length
  · have htake : ((Keyset.rest L.key cursor rows).take (limit + 1)).take limit =
        (Keyset.rest L.key cursor rows).take limit := by
      rw [List.take_take, Nat.min_eq_left (Nat.le_succ limit)]
    have hne : (Keyset.rest L.key cursor rows).take limit ≠ [] := by
      apply List.ne_nil_of_length_pos
      rw [List.length_take]
      omega
    rw [decide_eq_true (hlength.mpr hlong), if_pos rfl, if_pos rfl, if_pos hlong, htake,
      List.getLast?_eq_some_getLast hne]
    rfl
  · have hall : (Keyset.rest L.key cursor rows).length ≤ limit := Nat.not_lt.mp hlong
    rw [decide_eq_false (fun h ↦ hlong (hlength.mp h)), if_neg hlong,
      if_neg Bool.false_ne_true, if_neg Bool.false_ne_true, List.take_of_length_le hall,
      List.take_of_length_le (hall.trans (Nat.le_succ limit))]
    rfl

/-- A list on a store is the page of the rows that pass the filter. -/
theorem result_list (filter : ρ → Bool) (limit : Option ℤ) {cursor : Option (ℤ ×ₗ ℕ)}
    (h : ∀ k ∈ cursor, JavaScript.Date.IsTime (ofLex k).1) (answers : ℕ → HttpOutcome) (s : Store) :
    let page := Keyset.page L.key (clampLimit limit) cursor (L.selected filter s)
    ((L.list platform ids filter limit (cursor.map (writeKey platform ids))).run
        (.healthy answers) s).result =
      .ok ⟨page.data, ⟨page.next.map (writeKey platform ids), page.next.isSome⟩⟩ := by
  intro page
  unfold list
  rw [cursorValues_writeKey platform ids h]
  show Except.ok (buildPage platform _ _ (L.findMany filter (cursor.map ofLex) _ s) _) = _
  rw [findMany_eq, buildPage_rest platform ids (clampLimit_pos limit)]

end Listing

/-! ## Following `nextCursor` -/

/-- A client that follows `nextCursor`: what it has read of the last page, and the rows it has been
given so far. -/
structure Reader (ρ : Type) where
  pageInfo : Option PageInfo
  served : List ρ

namespace Reader

variable {ρ : Type}

def start : Reader ρ := ⟨none, []⟩

def cursor (w : Reader ρ) : Option Text := w.pageInfo.bind PageInfo.nextCursor

/-- There was no `nextCursor` on the last page. -/
def finished (w : Reader ρ) : Bool := w.pageInfo.any fun pageInfo ↦ pageInfo.nextCursor.isNone

/-- Ask a service for the next page, of the store as it is now. -/
def request (answers : ℕ → HttpOutcome) (list : Option Text → Service (Page ρ)) (w : Reader ρ)
    (s : Store) : Reader ρ :=
  if w.finished then w
  else
    match ((list w.cursor).run (.healthy answers) s).result with
    | .ok page => ⟨some page.pageInfo, w.served ++ page.data⟩
    | .error _ => w

end Reader

/-- What a client is given of the rows that pass a filter. -/
structure Paginates {ρ : Type} (answers : ℕ → HttpOutcome) (L : Listing ρ) (filter : ρ → Bool)
    (list : Option Text → Service (Page ρ)) : Prop where
  /-- A table that does not change is given as a whole, each row once, from the latest to the
  earliest, in at most one page more than there are rows. -/
  whole : ∀ s, L.Sound s → ∀ n > (L.selected filter s).length,
    let w := Transition.run (Reader.request answers list) .start (List.replicate n s)
    w.finished = true ∧ w.served.Perm (L.selected filter s) ∧ Keyset.Descending L.key w.served
  /-- A page is always there, and `hasNextPage` says if there are rows after all those given. -/
  hasNextPage : ∀ stores : List Store, (∀ s ∈ stores, L.Sound s) → ∀ s, L.Sound s →
    let w := Transition.run (Reader.request answers list) .start stores
    w.finished = false → ∃ page, ((list w.cursor).run (.healthy answers) s).result = .ok page ∧
      (page.pageInfo.hasNextPage = true ↔
        ∃ r ∈ L.selected filter s, ∀ x ∈ w.served ++ page.data, L.key r < L.key x)
  /-- Whatever the table is like at each page, the pages end. -/
  ends : ∀ stores : ℕ → Store, (∀ n, L.Sound (stores n)) → ∃ n,
    let w := Transition.run (Reader.request answers list) .start ((List.range n).map stores)
    w.finished = true
  /-- Then what has been in the table all the time has been given, and nothing twice. -/
  once : ∀ stores : List Store, (∀ s ∈ stores, L.Sound s) →
    let w := Transition.run (Reader.request answers list) .start stores
    Keyset.Descending L.key w.served ∧ w.served.Nodup ∧
      (w.finished = true → ∀ r, (∀ s ∈ stores, r ∈ L.selected filter s) → r ∈ w.served)

section Follows

variable {ν ρ : Type} (platform : Platform ν) (ids : IdFormat) (answers : ℕ → HttpOutcome)
variable {L : Listing ρ} (filter : ρ → Bool) (limit : Option ℤ)

/-- A reader of the table holds what the client does, the cursors as keys. -/
structure Reader.Follows (w : Reader ρ) (v : Keyset.Reading ρ (ℤ ×ₗ ℕ)) : Prop where
  cursor : w.cursor = v.cursor.map (Listing.writeKey platform ids)
  served : w.served = v.served
  finished : w.finished = v.finished
  instants : ∀ k ∈ v.cursor, JavaScript.Date.IsTime (ofLex k).1

theorem Reader.follows_start : Reader.Follows platform ids (ρ := ρ) .start (.start ρ (ℤ ×ₗ ℕ)) :=
  ⟨rfl, rfl, rfl, fun _ hk ↦ nomatch hk⟩

variable {platform ids}

theorem Reader.Follows.request {w : Reader ρ} {v : Keyset.Reading ρ (ℤ ×ₗ ℕ)}
    (h : Reader.Follows platform ids w v) {s : Store} (hs : L.Sound s) :
    Reader.Follows platform ids
      (w.request answers (fun cursor ↦ L.list platform ids filter limit cursor) s)
      (v.ask L.key (clampLimit limit) (L.selected filter s)) := by
  unfold Reader.request
  cases hv : v.finished with
  | true =>
      rw [if_pos (h.finished.trans hv), Keyset.Reading.ask_of_finished hv]
      exact h
  | false =>
      have hnot : ¬w.finished = true := by
        rw [h.finished, hv]
        exact Bool.false_ne_true
      have hresult := L.result_list platform ids filter limit h.instants answers s
      rw [if_neg hnot, h.cursor, hresult, Keyset.Reading.ask_of_not_finished hv]
      refine ⟨rfl, congrArg (· ++ _) h.served, Option.isNone_map, fun k hk ↦ ?_⟩
      obtain ⟨x, hx, rfl⟩ := (Keyset.page_of_next_some (hs.nodup_key filter) hk).last
      rw [Keyset.page_data] at hx
      have hrow := (Keyset.mem_rest.mp (List.mem_of_mem_take hx)).1
      exact hs.instants x (List.mem_of_mem_filter hrow)

theorem Reader.follows_run {w : Reader ρ} {v : Keyset.Reading ρ (ℤ ×ₗ ℕ)}
    (h : Reader.Follows platform ids w v) {stores : List Store} (hs : ∀ s ∈ stores, L.Sound s) :
    Reader.Follows platform ids
      (Transition.run
        (Reader.request answers (fun cursor ↦ L.list platform ids filter limit cursor)) w stores)
      (Transition.run (Keyset.Reading.ask L.key (clampLimit limit)) v
        (stores.map (L.selected filter))) := by
  induction stores generalizing w v with
  | nil => exact h
  | cons s stores ih =>
      obtain ⟨hfirst, hothers⟩ := List.forall_mem_cons.mp hs
      exact ih (h.request answers filter limit hfirst) hothers

/-- Keys of rows cannot get smaller for ever: instants are not before 1970. -/
theorem Listing.wellFounded_key (L : Listing ρ) : WellFounded fun a b : ρ ↦ L.key a < L.key b := by
  have hwf : WellFounded fun a b : ρ ↦
      toLex (L.createdAt a, L.id a) < toLex (L.createdAt b, L.id b) :=
    InvImage.wf (fun r ↦ toLex (L.createdAt r, L.id r)) wellFounded_lt
  refine Subrelation.wf (fun {a b} h ↦ ?_) hwf
  rw [Listing.key, Listing.key, Prod.Lex.toLex_lt_toLex] at h
  rw [Prod.Lex.toLex_lt_toLex]
  exact h.imp Int.ofNat_lt.mp fun ⟨hinstant, hid⟩ ↦ ⟨Int.ofNat_inj.mp hinstant, hid⟩

theorem Listing.progress_run {stores : List Store} (hs : ∀ s ∈ stores, L.Sound s) :
    Keyset.Reading.Progress L.key (fun r ↦ ∀ s ∈ stores, r ∈ L.selected filter s)
      (Transition.run (Keyset.Reading.ask L.key (clampLimit limit)) (.start ρ (ℤ ×ₗ ℕ))
        (stores.map (L.selected filter))) := by
  apply Keyset.Reading.progress_run (clampLimit_pos limit)
  · intro rows hrows
    obtain ⟨s, hmem, rfl⟩ := List.mem_map.mp hrows
    exact (hs s hmem).nodup_key filter
  · intro rows hrows r hr
    obtain ⟨s, hmem, rfl⟩ := List.mem_map.mp hrows
    exact hr s hmem
  · exact Keyset.Reading.progress_start

variable (platform ids L) in
theorem Listing.paginates :
    Paginates answers L filter (fun cursor ↦ L.list platform ids filter limit cursor) where
  whole s hs n hn := by
    have hsound : ∀ s' ∈ List.replicate n s, L.Sound s' :=
      fun _ hmem ↦ (List.eq_of_mem_replicate hmem).symm ▸ hs
    have hfollows := Reader.follows_run answers filter limit (Reader.follows_start platform ids)
      hsound
    rw [List.map_replicate] at hfollows
    have hlimit := clampLimit_pos limit
    have hkeys := hs.nodup_key filter
    have hfinished := Keyset.Reading.finished_of_length_lt hlimit hkeys hn
    intro w
    rw [hfollows.finished, hfollows.served]
    exact ⟨hfinished, Keyset.Reading.perm_of_finished hlimit hkeys hfinished,
      (Keyset.Reading.progress_replicate hlimit hkeys n).descending⟩
  hasNextPage stores hstores s hs := by
    have hfollows := Reader.follows_run answers filter limit (Reader.follows_start platform ids)
      hstores
    have hresult := L.result_list platform ids filter limit hfollows.instants answers s
    intro w hmore
    rw [hfollows.cursor, hfollows.served]
    refine ⟨_, hresult, ?_⟩
    exact (Listing.progress_run filter limit hstores).next_isSome_iff
      (hfollows.finished.symm.trans hmore) (clampLimit_pos limit) (hs.nodup_key filter)
  ends stores hstores := by
    have hends : ∃ n, (Transition.run (Keyset.Reading.ask L.key (clampLimit limit)) (.start ρ _)
        ((List.range n).map fun n ↦ L.selected filter (stores n))).finished = true :=
      Keyset.Reading.exists_finished L.wellFounded_key fun n ↦ (hstores n).nodup_key filter
    obtain ⟨n, hfinished⟩ := hends
    have hsound : ∀ s ∈ (List.range n).map stores, L.Sound s :=
      List.forall_mem_map.mpr fun m _ ↦ hstores m
    have hfollows := Reader.follows_run answers filter limit (Reader.follows_start platform ids)
      hsound
    rw [List.map_map] at hfollows
    exact ⟨n, hfollows.finished.trans hfinished⟩
  once stores hstores := by
    have hfollows := Reader.follows_run answers filter limit (Reader.follows_start platform ids)
      hstores
    have hprogress := Listing.progress_run filter limit hstores
    intro w
    rw [hfollows.finished, hfollows.served]
    refine ⟨hprogress.descending, hprogress.descending.nodup, fun hfinished r hr ↦ ?_⟩
    rcases hprogress.reached r hr with hserved | ⟨hmore, -⟩
    · exact hserved
    · rw [hfinished] at hmore
      cases hmore

end Follows

/-- The pages of a list are a partition of it, and a cursor is read back as the instant and the id
that it was made from. -/
theorem pages_partition {ν : Type} (platform : Platform ν) (ids : IdFormat)
    (answers : ℕ → HttpOutcome) :
    (∀ query : ListHoldsQuery, Paginates answers holdListing query.selects fun cursor ↦
      EscrowService.list platform ids { query with cursor }) ∧
    (∀ query : ListPayoutsQuery, Paginates answers payoutListing query.selects fun cursor ↦
      PayoutsService.list platform ids { query with cursor }) ∧
    (∀ query : ListPayoutMethodsQuery, Paginates answers methodListing query.selects fun cursor ↦
      PayoutMethodsService.listForAdmin platform ids { query with cursor }) ∧
    ∀ createdAt, JavaScript.Date.IsTime createdAt → ∀ id,
      decodeCursor platform (some (encodeCursor platform createdAt id)) =
        some ⟨some createdAt, id⟩ := by
  refine ⟨fun query ↦ ?_, fun query ↦ ?_, fun query ↦ ?_, fun createdAt h id ↦ ?_⟩
  · exact holdListing.paginates platform ids answers query.selects query.limit
  · exact payoutListing.paginates platform ids answers query.selects query.limit
  · exact methodListing.paginates platform ids answers query.selects query.limit
  · exact decodeCursor_encodeCursor platform h id

/-- Natural numbers, and nothing of what it has not written itself. -/
def Sample.platform : Platform ℕ where
  numbers := ⟨id, fun _ ↦ true, fun n ↦ utf16 (Nat.toDigits 10 n)⟩
  numeral t := JavaScript.numeralValue (scalarValues t)
  otherBase64 _ := []
  otherUtf8 _ := []
  otherDate _ := none

/-- Ids as decimal numerals. -/
def Sample.decimalIds : IdFormat where
  write id := utf16 (Nat.toDigits 10 id)
  read t :=
    if JavaScript.IsNumeral (scalarValues t) then some (JavaScript.numeralValue (scalarValues t))
    else none
  read_write id := by
    rw [JavaScript.scalarValues_utf16, if_pos (JavaScript.isNumeral_toDigits id),
      JavaScript.numeralValue_toDigits]

/-- A payout of the list below. -/
def Sample.listedPayout (id createdAt : ℕ) : Payout :=
  { id, artistId := 1, holdId := id, amountCents := 100, currency := .zar, state := .queued
    dispatchAfter := createdAt, gatewayPayoutId := none, attemptedAt := none, completedAt := none
    cancelledAt := none, cancellationReason := none, failureReason := none, attempts := 0
    failedAt := none, createdAt }

/-- Three payouts, two of which are of the same instant. -/
def Sample.listed : Store :=
  { Store.empty 0 0 [] with
    payouts := [Sample.listedPayout 1 10, Sample.listedPayout 2 20, Sample.listedPayout 3 10] }

theorem Sample.sound_listed : payoutListing.Sound Sample.listed := ⟨by decide, by decide⟩

/-- In pages of one row they are given from the second payout on, and the first is the last. -/
theorem pages_partition_sample :
    let query : ListPayoutsQuery := ⟨none, none, none, none, some 1, none⟩
    let w := Transition.run (Reader.request (fun _ ↦ .resolved 200 none) fun cursor ↦
      PayoutsService.list Sample.platform Sample.decimalIds { query with cursor })
      .start (List.replicate 4 Sample.listed)
    w.finished = true ∧ w.served.Perm Sample.listed.payouts ∧
      Keyset.Descending payoutListing.key w.served := by
  intro query
  obtain ⟨-, hpayouts, -, -⟩ :=
    pages_partition Sample.platform Sample.decimalIds fun _ ↦ .resolved 200 none
  exact (hpayouts query).whole Sample.listed Sample.sound_listed 4 (by decide)

end GearshPayments
