import DocumentApi.Proofs.Matching.Selection
import DocumentApi.Proofs.Operation.InMemory
import Mathlib.Data.Nat.Find

/-!
# Pages of a list

The pages of a list read on a store in memory are the parts of one list:

* `Service.list_eq_pageOf` — if one list request is carried out, then so are all those that differ
  from it in paging only, and each of them answers with its part of the same list, cut out in exact
  arithmetic.

What a page is to be is said by `Envelope.pageOf`, which knows of no bounds on numbers. The program
computes places in 64 bits and takes the last one for every place that does not fit. Both agree on
lists with less than 2 ^ 64 documents: a place that does not fit is behind their end, and so is the
last one. That the number of documents and the documents of a page are read by two operations of
the store makes no difference, since `Operation.listed` derives both from one list of documents;
and that only the documents of the page are resolved makes none either, since documents are resolved
independently of each other.
-/

namespace DocumentApi

/-! ### Parts of a list -/

section Places

variable {α : Type}

/-- The items of a list whose places, counted from `start`, satisfy a condition. -/
def itemsFrom (start : Nat) (condition : Nat → Bool) (items : List α) : List α :=
  ((items.zipIdx start).filter fun item => condition item.2).map Prod.fst

theorem itemsFrom_cons (start : Nat) (condition : Nat → Bool) (item : α) (items : List α) :
    itemsFrom start condition (item :: items) =
      if condition start then item :: itemsFrom (start + 1) condition items
      else itemsFrom (start + 1) condition items := by
  unfold itemsFrom
  rw [List.zipIdx_cons, List.filter_cons]
  split <;> rfl

/-- The items between two places are what is left between dropping and taking. -/
theorem itemsFrom_interval (start first last : Nat) (items : List α) :
    itemsFrom start (fun place => decide (first ≤ place ∧ place < last)) items
      = (items.drop (first - start)).take (last - max first start) := by
  induction items generalizing start with
  | nil => simp [itemsFrom]
  | cons item items ih =>
    -- The first item stands before the interval, in it or behind it.
    rw [itemsFrom_cons, ih]
    by_cases hfirst : first ≤ start
    · have hzero : first - start = 0 := Nat.sub_eq_zero_of_le hfirst
      have hzero' : first - (start + 1) = 0 := by omega
      rw [hzero, hzero', Nat.max_eq_right hfirst, Nat.max_eq_right (by omega), List.drop_zero,
        List.drop_zero]
      by_cases hlast : start < last
      · have hsucc : last - start = last - (start + 1) + 1 := by omega
        rw [hsucc, List.take_succ_cons, if_pos (by simp [hfirst, hlast])]
      · have hnone : last - start = 0 := by omega
        have hnone' : last - (start + 1) = 0 := by omega
        rw [hnone, hnone', List.take_zero, List.take_zero, if_neg (by simp [hlast])]
    · have hsucc : first - start = first - (start + 1) + 1 := by omega
      rw [hsucc, List.drop_succ_cons, Nat.max_eq_left (by omega), Nat.max_eq_left (by omega),
        if_neg (by simp [hfirst])]

end Places

/-- **A page of a list.** For a number that is not negative and a positive size, the items whose
places lie between the first place of the page and the first place of the next one, and whether
there are places from there on; without such a number and size the whole list. The number of items
is that of the whole list in any case. -/
def Envelope.pageOf {α : Type} (all : List α) (number size : Option Int) : Envelope α :=
  match number, size with
  | some number, some size =>
    if 0 ≤ number ∧ 0 < size then
      { data := itemsFrom 0
          (fun place => decide (number * size ≤ place ∧ place < (number + 1) * size)) all
        hasMore := decide ((number + 1) * size < all.length)
        totalCount := all.length }
    else .ofList all
  | _, _ => .ofList all

namespace Envelope

variable {α : Type} (all : List α)

/-- A page by dropping and taking. -/
theorem pageOf_nat {size : Nat} (hsize : 0 < size) (number : Nat) :
    pageOf all (some number) (some size)
      = ⟨(all.drop (number * size)).take size, decide ((number + 1) * size < all.length),
          all.length⟩ := by
  -- The bounds of a page with natural numbers are natural numbers.
  have hbounds : 0 ≤ (number : Int) ∧ 0 < (size : Int) := by omega
  -- Products of natural numbers are compared as integers or as natural numbers alike.
  have hcondition : (fun place : Nat => decide ((number : Int) * size ≤ place ∧
        place < ((number : Int) + 1) * size))
      = fun place => decide (number * size ≤ place ∧ place < (number + 1) * size) := by
    funext place
    norm_cast
  have hmore : decide (((number : Int) + 1) * size < all.length)
      = decide ((number + 1) * size < all.length) := by
    norm_cast
  -- The page is as wide as its size, wherever it begins.
  have hwidth : (number + 1) * size - max (number * size) 0 = size := by
    rw [Nat.max_eq_left (Nat.zero_le _), Nat.succ_mul, Nat.add_sub_cancel_left]
  simp only [pageOf, if_pos hbounds, hcondition, hmore]
  rw [itemsFrom_interval, hwidth, Nat.sub_zero]

/-- The pages up to a number make up the list up to the end of the last of them. -/
theorem flatMap_pageOf {size : Nat} (hsize : 0 < size) (count : Nat) :
    ((List.range count).flatMap fun number : Nat => (pageOf all (some number) (some size)).data)
      = all.take (count * size) := by
  induction count with
  | zero => simp
  | succ count ih =>
    calc ((List.range (count + 1)).flatMap fun number : Nat =>
          (pageOf all (some number) (some size)).data)
        -- The pages so far and the next one are the items up to its end.
        = all.take (count * size) ++ (all.drop (count * size)).take size := by
          rw [List.range_succ, List.flatMap_append, ih, List.flatMap_singleton,
            pageOf_nat all hsize]
      _ = all.take ((count + 1) * size) := by rw [Nat.succ_mul, List.take_add]

/-- **Reading on while another page follows.** There is a last page: the pages before it say that
another one follows, it does not, and together they are the whole list. -/
theorem exists_last_pageOf {size : Nat} (hsize : 0 < size) :
    ∃ last : Nat,
      (∀ number : Nat, number < last → (pageOf all (some number) (some size)).hasMore = true) ∧
      (pageOf all (some last) (some size)).hasMore = false ∧
      ((List.range (last + 1)).flatMap fun number : Nat =>
        (pageOf all (some number) (some size)).data) = all := by
  -- The first page behind which there is nothing.
  have hexists : ∃ number, all.length ≤ (number + 1) * size := by
    refine ⟨all.length, ?_⟩
    calc all.length ≤ all.length + 1 := Nat.le_succ _
      _ ≤ (all.length + 1) * size := Nat.le_mul_of_pos_right _ hsize
  refine ⟨Nat.find hexists, ?_, ?_, ?_⟩
  · -- Before the last page there is always something behind.
    intro number hnumber
    have hmore := Nat.find_min hexists hnumber
    rw [pageOf_nat all hsize]
    exact decide_eq_true (by omega)
  · have hnone := Nat.find_spec hexists
    rw [pageOf_nat all hsize]
    exact decide_eq_false (by omega)
  · rw [flatMap_pageOf all hsize, List.take_of_length_le (Nat.find_spec hexists)]

end Envelope

/-! ### Places that do not fit -/

namespace Page

/-- A place that does not fit is behind the end of every list whose length fits, and so is the one
that is taken for it. -/
theorem drop_saturate {α : Type} {items : List α} (hlength : items.length < UInt64.size)
    (place : Nat) : items.drop (saturate place) = items.drop place := by
  unfold saturate lastPlace
  -- A place that fits is left alone; any other one is behind all items.
  by_cases hfits : place ≤ UInt64.size - 1
  · rw [Nat.min_eq_left hfits]
  · rw [Nat.min_eq_right (by omega), List.drop_of_length_le (by omega),
      List.drop_of_length_le (by omega)]

theorem saturate_lt_iff {length : Nat} (hlength : length < UInt64.size) (place : Nat) :
    saturate place < length ↔ place < length := by
  unfold saturate lastPlace
  omega

/-- Whether another page follows is decided as in exact arithmetic. -/
theorem hasMore_eq (page : Page) (hsize : 0 < page.size) {length : Nat}
    (hlength : length < UInt64.size) :
    page.hasMore length = decide ((page.number + 1) * page.size < length) := by
  unfold hasMore
  rw [decide_eq_decide, saturate_lt_iff hlength]
  by_cases hfits : page.number + 1 ≤ lastPlace
  · rw [saturate, Nat.min_eq_left hfits]
  · -- No list that fits reaches the page after this one, in whichever way its place is computed.
    have hlast : length ≤ lastPlace := by
      unfold lastPlace
      omega
    have hsaturated : length ≤ saturate (page.number + 1) * page.size := by
      calc length ≤ lastPlace := hlast
        _ = saturate (page.number + 1) := by rw [saturate, Nat.min_eq_right (by omega)]
        _ ≤ saturate (page.number + 1) * page.size := Nat.le_mul_of_pos_right _ hsize
    have hexact : length ≤ (page.number + 1) * page.size := by
      calc length ≤ lastPlace := hlast
        _ ≤ page.number + 1 := by omega
        _ ≤ (page.number + 1) * page.size := Nat.le_mul_of_pos_right _ hsize
    omega

end Page

/-! ### The documents that a list is made of -/

/-- No more documents satisfy criteria than there are. -/
theorem Matching.length_le_of_filter {engine : PatternEngine} {criteria : Criteria}
    {documents matched : List Document} (h : filter engine criteria documents = .ok matched) :
    matched.length ≤ documents.length := by
  rw [(filter_eq_ok.mp h).2]
  exact List.length_filter_le _ documents

/-! ### Pages of a listing -/

namespace Listing

/-- The listing with another page. -/
def paged (listing : Listing) (number size : Option Int) : Listing :=
  { listing with pageNumber := number, pageSize := size }

/-- The documents of a page, under any change of each of them, with what the envelope says about
them. -/
theorem slice_eq_pageOf {α β : Type} (listing : Listing) (number size : Option Int)
    {items : List α} (hlength : items.length < UInt64.size) (f : α → β) :
    ((Envelope.ofList (((listing.paged number size).selection.slice items).map f)).withPage
        (listing.paged number size).page? items.length)
      = Envelope.pageOf (items.map f) number size := by
  have hpage : (listing.paged number size).page? = Page.ofParams? number size := rfl
  unfold Selection.slice selection
  simp only [hpage]
  -- A page exists in one of the four cases, and then only within the bounds.
  match number, size with
  | some number, some size =>
    by_cases hbounds : 0 ≤ number ∧ 0 < size
    · -- Numbers within the bounds are natural numbers.
      obtain ⟨n, rfl⟩ := Int.eq_ofNat_of_zero_le hbounds.1
      obtain ⟨s, rfl⟩ := Int.eq_ofNat_of_zero_le (Int.le_of_lt hbounds.2)
      have hsize : 0 < s := by omega
      have hpage : Page.ofParams? (some (n : Int)) (some (s : Int)) = some ⟨n, s⟩ := by
        rw [Page.ofParams?, if_pos hbounds, Int.toNat_natCast, Int.toNat_natCast]
      rw [hpage, Envelope.pageOf_nat (items.map f) hsize, List.length_map]
      simp only [Option.map_some, Option.getD_some, Page.limit, Page.skip,
        Page.drop_saturate hlength, Envelope.withPage, Envelope.ofList, Option.any_some,
        Page.hasMore_eq ⟨n, s⟩ hsize hlength, List.map_take, List.map_drop]
    · have hpage : Page.ofParams? (some number) (some size) = none := by
        rw [Page.ofParams?, if_neg hbounds]
      rw [hpage, Envelope.pageOf, if_neg hbounds]
      simp [Envelope.withPage, Envelope.ofList]
  -- Without both numbers there is no page.
  | none, _ => simp [Page.ofParams?, Envelope.pageOf, Envelope.withPage, Envelope.ofList]
  | some _, none => simp [Page.ofParams?, Envelope.pageOf, Envelope.withPage, Envelope.ofList]

end Listing

/-- If a list read succeeds, then the read of any of its pages gives the part of one list. -/
theorem Operation.list_paged {engine : StoreEngine} {schema : Schema} {store : Store}
    {listing : Listing}
    (hfits : (store.collection schema.collection).documents.length < UInt64.size)
    (hsuccess : ((list (.inMemory engine) schema listing).run store).1.isSuccess = true) :
    ∃ all : List Json, ∀ number size : Option Int,
      (list (.inMemory engine) schema (listing.paged number size)).run store
        = (.withBody Status.ok (Envelope.pageOf all number size).toJson, store) := by
  rw [list_run] at hsuccess
  -- The read succeeds, so that neither matching nor sorting has failed.
  cases hmatched : Matching.filter engine listing.effectiveCriteria
      (store.collection schema.collection).documents with
  | error failure =>
    rw [listed, hmatched] at hsuccess
    exact absurd hsuccess (by simp [isSuccess_failed])
  | ok matched =>
    cases harranged : engine.arrange listing.sort.keys matched with
    | error failure =>
      simp only [listed, hmatched, harranged] at hsuccess
      exact absurd hsuccess (by simp [isSuccess_failed])
    | ok arranged =>
      -- What is counted is what is sorted and sliced, for every page.
      have hcount : matched.length = arranged.length :=
        (engine.perm_of_arrange harranged).length_eq.symm
      have hlength : arranged.length < UInt64.size := by
        rw [← hcount]
        exact Nat.lt_of_le_of_lt (Matching.length_le_of_filter hmatched) hfits
      refine ⟨arranged.map fun document => (Population.resolveIn store schema listing.population
        (Document.cut listing.projection document)).normalize, ?_⟩
      intro number size
      -- Paging changes neither the criteria nor the sort.
      have hcriteria : (listing.paged number size).effectiveCriteria = listing.effectiveCriteria :=
        rfl
      have hsort : (listing.paged number size).sort = listing.sort := rfl
      rw [list_run, ← Listing.slice_eq_pageOf listing number size hlength]
      simp only [listed, hcriteria, hsort, hmatched, harranged, hcount]
      simp only [Envelope.normalize, Envelope.map, Envelope.withPage, Envelope.ofList,
        List.map_map]
      rfl

/-! ### Pages of a list request -/

namespace Request

/-- Whether a request asks for a list. -/
def IsList (request : Request) : Prop :=
  request.method = "GET" ∧ request.param? "id" = none

/-- Whether two requests ask for lists that differ in paging at most. -/
def AgreesApartFromPaging (request other : Request) : Prop :=
  ∀ name ∈ ["q", "fields", "populate", "sort", "showInactive"],
    other.queryParam? name = request.queryParam? name

end Request

theorem Listing.ofRequest_of_agrees {request other : Request}
    (h : request.AgreesApartFromPaging other) :
    ofRequest other = (ofRequest request).paged (integerParam (other.queryParam? "page"))
      (integerParam (other.queryParam? "per_page")) := by
  unfold ofRequest paged textParam
  rw [h "q" (by simp), h "fields" (by simp), h "populate" (by simp), h "sort" (by simp),
    h "showInactive" (by simp)]

theorem Service.answer_of_isList {m : Type → Type} [Monad m] (backend : Backend m)
    (schema : Schema) (ids : Nat → ObjectId) {request : Request} (h : request.IsList) :
    answer backend schema ids request
      = Operation.list backend schema (Listing.ofRequest request) := by
  unfold answer
  rw [h.1]
  simp only [h.2]

/-- **Pages partition the list.** On a store in memory whose collection has less than 2 ^ 64
documents, and for a list request that is carried out, there is one list such that

* every list request that differs in paging only answers with its page of this list — the whole list
  if it asks for no page, for a negative one or for pages without documents — and leaves the store
  as it is;
* so does every listing that differs in paging only, whatever integers its page number and page size
  are;
* the pages of a positive size, read one after another while another one follows, are together the
  list. -/
theorem Service.list_eq_pageOf (engine : StoreEngine) (schema : Schema) (store : Store)
    (hfits : (store.collection schema.collection).documents.length < UInt64.size)
    (ids : Nat → ObjectId) (request : Request) (hlist : request.IsList)
    (hsuccess :
      ((Service.answer (.inMemory engine) schema ids request).run store).1.isSuccess = true) :
    ∃ all : List Json,
      (∀ (ids : Nat → ObjectId) (other : Request), other.IsList →
        request.AgreesApartFromPaging other →
        (Service.answer (.inMemory engine) schema ids other).run store
          = (.withBody Status.ok (Envelope.pageOf all
              (Listing.integerParam (other.queryParam? "page"))
              (Listing.integerParam (other.queryParam? "per_page"))).toJson, store)) ∧
      (∀ number size : Option Int,
        (Operation.list (.inMemory engine) schema
            ((Listing.ofRequest request).paged number size)).run store
          = (.withBody Status.ok (Envelope.pageOf all number size).toJson, store)) ∧
      ∀ size : Nat, 0 < size → ∃ last : Nat,
        (∀ number : Nat, number < last →
          (Envelope.pageOf all (some number) (some size)).hasMore = true) ∧
        (Envelope.pageOf all (some last) (some size)).hasMore = false ∧
        ((List.range (last + 1)).flatMap fun number : Nat =>
          (Envelope.pageOf all (some number) (some size)).data) = all := by
  rw [answer_of_isList _ _ _ hlist] at hsuccess
  obtain ⟨all, hall⟩ := Operation.list_paged hfits hsuccess
  refine ⟨all, ?_, hall, fun size hsize => Envelope.exists_last_pageOf all hsize⟩
  -- Another request for a list is the same listing, with its own page.
  intro ids other hother hagrees
  rw [answer_of_isList _ _ _ hother, Listing.ofRequest_of_agrees hagrees]
  exact hall _ _

/-- A store with three documents, one of them deactivated. -/
def threeItems : Store :=
  ⟨[("items", ⟨[[("_id", .objectId (.ofNat 1)), ("isActive", .bool true)],
    [("_id", .objectId (.ofNat 2)), ("isActive", .bool false)],
    [("_id", .objectId (.ofNat 3)), ("isActive", .bool true)]], []⟩)]⟩

/-- A request for the second page of one document. -/
def secondPage : Request :=
  ((Request.ofMethod "GET").withQuery "page" "1").withQuery "per_page" "1"

/-- The second page of the three documents is a part of the list of all of them. -/
theorem Service.list_eq_pageOf_secondPage :
    ∃ all : List Json,
      (Service.answer (.inMemory .withoutPatterns) (.ofFields "items" []) ObjectId.ofNat
        secondPage).run threeItems
          = (.withBody Status.ok (Envelope.pageOf all (some 1) (some 1)).toJson, threeItems) := by
  have hlist : secondPage.IsList := ⟨rfl, rfl⟩
  obtain ⟨all, hpages, -⟩ := Service.list_eq_pageOf .withoutPatterns (.ofFields "items" [])
    threeItems (by decide) ObjectId.ofNat secondPage hlist (by decide +kernel)
  have hpage := hpages ObjectId.ofNat secondPage hlist fun _ _ => rfl
  have hnumber : Listing.integerParam (secondPage.queryParam? "page") = some 1 := by
    decide +kernel
  have hsize : Listing.integerParam (secondPage.queryParam? "per_page") = some 1 := by
    decide +kernel
  rw [hnumber, hsize] at hpage
  exact ⟨all, hpage⟩

end DocumentApi
