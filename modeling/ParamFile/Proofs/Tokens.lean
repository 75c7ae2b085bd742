import ParamFile.Proofs.Calls

/-!
# Page tokens

A store answers a page with a token for the place where the next one begins, and is asked for that page
with the token. A token holds numbers up to `Store.greatestToken`. Up to there it is read back as the
place that it was made for (`Store.tokenStart_tokenOf`), so that a client that passes tokens reads what
one reads that passes the places themselves (`Client.gatherTokens_path`, `Client.gatherTokens_history`).
-/

namespace ParamFile

open ParamFile.Action

namespace Store

/-! ## Tokens and places -/

theorem le_ofDigitChars (digits : List Char) (n : Nat) : n ≤ Nat.ofDigitChars 10 digits n := by
  rw [Nat.ofDigitChars_eq_ofDigitChars_zero]
  have := Nat.le_mul_of_pos_left n (Nat.pow_pos (n := digits.length) (show 0 < 10 by decide))
  omega

theorem tokenNumber_digits {digits : List Char} (all : ∀ c ∈ digits, c.isDigit = true) {n : Nat}
    (small : Nat.ofDigitChars 10 digits n ≤ greatestToken) :
    tokenNumber n digits = .ok (Nat.ofDigitChars 10 digits n) := by
  induction digits generalizing n with
  | nil => rfl
  | cons c rest ih =>
    have step : Nat.ofDigitChars 10 (c :: rest) n =
        Nat.ofDigitChars 10 rest (10 * n + (c.toNat - 48)) := by
      rw [Nat.ofDigitChars_eq_foldl, Nat.ofDigitChars_eq_foldl]
      rfl
    rw [step] at small ⊢
    have fits := le_ofDigitChars rest (10 * n + (c.toNat - 48))
    rw [tokenNumber, all c List.mem_cons_self, if_neg (by decide), if_neg (by omega)]
    exact ih (fun d hd => all d (List.mem_cons_of_mem c hd)) small

theorem tokenStart_none : tokenStart none = .ok 0 := rfl

/-- The token for a place means that place. -/
theorem tokenStart_tokenOf {n : Nat} (small : n ≤ greatestToken) :
    tokenStart (some (tokenOf n)) = .ok n := by
  have digits : ∀ c ∈ Nat.toDigits 10 n, c.isDigit = true :=
    fun c => Nat.isDigit_of_mem_toDigits (by decide) (by decide)
  have number : tokenNumber 0 (Nat.toDigits 10 n) = .ok n := by
    have written : Nat.ofDigitChars 10 (Nat.toDigits 10 n) 0 = n := Nat.ofDigitChars_ten_toDigits
    rw [tokenNumber_digits digits (by omega), written]
  have text : (tokenOf n).toList = Nat.toDigits 10 n := by
    rw [tokenOf, Nat.toString_eq_ofList_toDigits, String.toList_ofList]
  rw [tokenStart, text]
  -- a number begins with a digit, not with a sign
  split
  · rename_i empty
    exact absurd empty Nat.toDigits_ne_nil
  · rename_i d rest sign
    rw [sign] at digits
    exact absurd (digits '+' List.mem_cons_self) (by decide)
  · rw [number]
    rfl

/-! ## Pages -/

section
variable {s : Store} {token : Option String} {start : Nat} (place : tokenStart token = .ok start)
include place

theorem pathPageAt_eq (q : Query) : s.pathPageAt q token = s.pathPage q start := by
  unfold pathPageAt pathPage
  cases s.listing q with
  | error e => rfl
  | ok records =>
    rw [place]
    rfl

theorem historyPageAt_eq (name : String) (decrypt : Bool) :
    s.historyPageAt name decrypt token = .ok (s.historyPage name decrypt start) := by
  unfold historyPageAt
  split
  · rw [place]
    rfl
  · rename_i unknown
    have none : s.versions name = [] := by
      rw [NameMap.contains, Bool.not_eq_true, Option.isSome_eq_false_iff,
        Option.isNone_iff_eq_none] at unknown
      rw [versions, unknown]
      rfl
    simp [historyPage, page, none]

end

theorem next_lt {s : Store} {records : List Record} {start next : Nat}
    (h : (s.page records start).next = some next) : next < records.length := by
  unfold page at h
  dsimp only at h
  split at h
  · cases h
    assumption
  · cases h

end Store

namespace Client

/-! ## Reading with tokens -/

/-- Reads pages from the place on that a token means, passing on the token that comes with each. -/
def gatherTokens {α : Type} (fetch : Option String → ClientM Page) (load : Record → ClientM α) :
    (fuel : Nat) → (token : Option String) → ClientM (List α)
  | 0, _ => return []
  | fuel + 1, token => do
    let page ← fetch token
    let loaded ← page.records.mapM load
    match page.next.map Store.tokenOf with
    | none => return loaded
    | some next => return loaded ++ (← gatherTokens fetch load fuel (some next))

def fetchPathAt (q : Store.Query) (token : Option String) : ClientM Page :=
  query .path fun s => s.pathPageAt q token

def fetchHistoryAt (name : String) (decrypt : Bool) (token : Option String) : ClientM Page :=
  query .history fun s => s.historyPageAt name decrypt token

/-- The same client twice, of a store whose listings have no place that a token cannot hold. -/
def Addressable (c c' : Client) : Prop := c = c' ∧ listingBound c.backend.store ≤ Store.greatestToken

/-- The same page twice, and a token can hold where the next one begins. -/
def SamePage (p p' : Page) : Prop := p = p' ∧ ∀ next, p.next = some next → next ≤ Store.greatestToken

section
variable {α : Type} {load : Record → ClientM α}

/-- With tokens the same is read, if the same pages come and their records are loaded alike. -/
theorem agree_gatherTokens {fetchAt : Option String → ClientM Page} {fetch : Nat → ClientM Page}
    (hf : ∀ token start, Store.tokenStart token = .ok start →
      Agree Addressable SamePage (fetchAt token) (fetch start))
    (hl : ∀ r, Agree Addressable (· = ·) (load r) (load r)) (fuel : Nat) {token : Option String}
    {start : Nat} (place : Store.tokenStart token = .ok start) :
    Agree Addressable (· = ·) (gatherTokens fetchAt load fuel token) (gather fetch load fuel start) := by
  induction fuel generalizing token start with
  | zero => exact .pure rfl
  | succ fuel ih =>
    rw [gatherTokens, gather]
    refine (hf token start place).bind ?_
    rintro page _ ⟨rfl, small⟩
    refine (Agree.mapM_eq fun r _ => hl r).bind ?_
    rintro loaded _ rfl
    cases more : page.next with
    | none => exact .pure rfl
    | some next =>
      refine (ih (Store.tokenStart_tokenOf (small next more))).bind ?_
      rintro rest _ rfl
      exact .pure rfl

theorem agree_load {a : ClientM α} (keeps : Keeps (fun c => c.backend.store) a) :
    Agree Addressable (· = ·) a a := by
  rintro c _ ⟨rfl, small⟩
  have kept : (a.runOn c).2.backend.store = c.backend.store := keeps c
  exact ⟨sameEnd_eq.2 rfl, rfl, by rwa [kept]⟩

/-- A query for a page is the same with a token as with its place. -/
theorem agree_query {call : Call} {f g : Store → Except Failure Page} (same : ∀ s, f s = g s)
    (small : ∀ s page next, g s = .ok page → page.next = some next → next < listingBound s) :
    Agree Addressable SamePage (query call f) (query call g) := by
  obtain rfl : f = g := funext same
  rintro c _ ⟨rfl, bound⟩
  rw [query_runOn]
  refine ⟨?_, rfl, bound⟩
  unfold answer
  split
  · exact .error _
  · cases found : f c.backend.store with
    | error e => exact .error _
    | ok page =>
      refine .ok ⟨rfl, fun next more => ?_⟩
      have := small _ page next found more
      omega

section
variable {c : Client} (small : listingBound c.backend.store ≤ Store.greatestToken)
include small

section
variable (keeps : ∀ r, Keeps (fun c => c.backend.store) (load r)) (fuel : Nat)
include keeps

theorem gatherTokens_eq {fetchAt : Option String → ClientM Page} {fetch : Nat → ClientM Page}
    (pages : ∀ token start, Store.tokenStart token = .ok start →
      Agree Addressable SamePage (fetchAt token) (fetch start)) :
    (gatherTokens fetchAt load fuel none).runOn c = (gather fetch load fuel 0).runOn c := by
  obtain ⟨ends, leaves, -⟩ := agree_gatherTokens pages (fun r => agree_load (keeps r)) fuel
    Store.tokenStart_none c c ⟨rfl, small⟩
  exact Prod.ext (sameEnd_eq.1 ends) leaves

/-- The pages under a path are the same with tokens as with places. -/
theorem gatherTokens_path (q : Store.Query) :
    (gatherTokens (fetchPathAt q) load fuel none).runOn c =
      (gather (fetchPath q) load fuel 0).runOn c := by
  refine gatherTokens_eq small keeps fuel fun token start place => ?_
  refine agree_query (fun s => Store.pathPageAt_eq place q) fun s page next found more => ?_
  rw [pathPage_eq] at found
  cases selected : s.selected q.path q.recursive q.filters with
  | error e =>
    rw [selected] at found
    cases found
  | ok records =>
    rw [selected] at found
    cases found
    exact Nat.lt_of_lt_of_le (Store.next_lt more) (length_selected_le selected)

theorem gatherTokens_history (name : String) (decrypt : Bool) :
    (gatherTokens (fetchHistoryAt name decrypt) load fuel none).runOn c =
      (gather (fetchHistory name decrypt) load fuel 0).runOn c := by
  refine gatherTokens_eq small keeps fuel fun token start place => ?_
  refine agree_query (fun s => Store.historyPageAt_eq place name decrypt)
    fun s page next found more => ?_
  cases found
  have within := Store.next_lt more
  rw [List.length_map] at within
  exact Nat.lt_of_lt_of_le within (length_versions_le_bound s name)

end

/-- So are the parameters under a path, which are loaded page by page. -/
theorem loadTokens_path (fuel : Nat) (q : Store.Query) (reencrypt : Bool) :
    (gatherTokens (fetchPathAt q) (loadRecord reencrypt) fuel none).runOn c =
      (gather (fetchPath q) (loadRecord reencrypt) fuel 0).runOn c :=
  gatherTokens_path small (keeps_loadRecord keeps_store_encrypt reencrypt) fuel q

end

end

end Client

end ParamFile
