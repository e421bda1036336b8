import AbaxLending.Spec.Ledger

/-!
The messages of the users, as one loop.

`deposit`, `withdraw`, `borrow` and `repay` do to the tokens what the loop of `multi_op`
does for a list of one action (`execute_settles`), so what that loop does is shown once
for all five.
-/

namespace AbaxLending

open Outcome

/-- The amount of the first action of a list. -/
def firstAmount (actions : List Action) : ℕ := (actions.head?.map Action.amount).getD 0

namespace World

variable {w w' : World} {env : Env} {onBehalfOf : AccountId} {first : ℕ}

/-- The loop reads the tokens of every asset it works on. -/
lemma settleActions_tokens {l : List (Action × (ℕ × ℕ))}
    (h : w.settleActions env onBehalfOf first l = .ok w') :
    ∀ action ∈ l.map Prod.fst, ∃ tokens,
      w.pool.reserveAbacusTokens.get action.asset = some tokens := by
  induction l generalizing w with
  | nil =>
      intro action hmem
      cases hmem
  | cons head rest ih =>
      obtain ⟨action, interests⟩ := head
      simp only [settleActions, bind_eq_ok] at h
      obtain ⟨w₁, h₁, h₂⟩ := h
      have hpool := (settleAction_keeps h₁).pool
      simp only [settleAction, bind_eq_ok, unwrap_eq_ok] at h₁
      obtain ⟨tokens, htokens, -⟩ := h₁
      intro action' hmem
      rcases List.mem_cons.mp hmem with rfl | hmem
      · exact ⟨tokens, htokens⟩
      · exact hpool ▸ ih h₂ action' hmem

/-- The loop on one action. -/
lemma settleActions_single {action : Action} {interests : ℕ × ℕ} :
    w.settleActions env onBehalfOf first [(action, interests)]
      = w.settleAction env onBehalfOf first action interests := by
  rw [settleActions]
  cases w.settleAction env onBehalfOf first action interests <;> rfl

/-- What a message with one action returns, paired up. -/
lemma zip_single [Pendzl] {s : LendingPoolStorage} {actions : List Action}
    {res : AccountActionsResult} {action : Action} {interests : ℕ × ℕ}
    (hres : s.accountForAccountActions env onBehalfOf actions = .ok res)
    (hactions : res.actions = [action]) (hhead : res.interests.head? = some interests) :
    [(action, interests)] = res.actions.zip res.interests := by
  obtain ⟨st, hst, -, -⟩ := LendingPoolStorage.accountForAccountActions_ok hres
  have hlen := AccountActionsState.applyActions_length hst
  rw [hactions] at hlen ⊢
  cases hinterests : res.interests with
  | nil =>
      rw [hinterests] at hhead
      cases hhead
  | cons head rest =>
      rw [hinterests, List.length_singleton, List.length_cons] at hlen
      have hnil : rest = [] := List.length_eq_zero_iff.mp (by omega)
      rw [hinterests, List.head?_cons, Option.some.injEq] at hhead
      rw [hnil, hhead]
      rfl

/-- **The messages on behalf of an account are the loop of `multi_op`** over its actions,
with the amounts with which they were settled and the interests accrued for them. -/
theorem execute_settles [Pendzl] {actions : List Action} {message : Message}
    (hids : w.pool.IdsUnique) (hm : message.userActions = some (onBehalfOf, actions))
    (h : w.execute env message = .ok w') :
    ∃ res l, w.pool.accountForAccountActions env onBehalfOf actions = .ok res
      ∧ l = res.actions.zip res.interests ∧ l.map Prod.fst = res.actions
      ∧ (w.withPool res.storage).settleActions env onBehalfOf (firstAmount res.actions) l
        = .ok w' := by
  have hsettled : ∀ {res}, w.pool.accountForAccountActions env onBehalfOf actions = .ok res →
      res.actions = ((w.pool.ledgerOf env onBehalfOf env.blockTimestamp).settle actions).2 :=
    fun hres => (Prod.ext_iff.mp (LendingPoolStorage.accountForAccountActions_ledger hids hres)).2
  cases message with
  | deposit asset account amount =>
      simp only [Message.userActions, Option.some.injEq, Prod.mk.injEq] at hm
      obtain ⟨rfl, rfl⟩ := hm
      simp only [execute, mapErr_eq_ok, deposit, bind_eq_ok, unwrap_eq_ok] at h
      obtain ⟨_, _, res, hres, interests, hhead, action, haction, w₁, h₁, tokens, ht, minted,
        hminted, w₂, h₂, h₃⟩ := h
      rw [hsettled hres] at haction
      simp only [Ledger.settle, Action.settled, List.getElem?_cons_zero,
        Option.some.injEq] at haction
      subst haction
      refine ⟨res, [(⟨.deposit, asset, amount⟩, interests)], hres,
        zip_single hres (hsettled hres) hhead, (hsettled hres).symm, ?_⟩
      rw [settleActions_single]
      simp only [settleAction, bind_eq_ok, unwrap_eq_ok]
      exact ⟨tokens, (transferIn_frame h₁).1.pool ▸ ht, w₁, h₁, minted, hminted, w₂, h₂, h₃⟩
  | withdraw asset account amount =>
      simp only [Message.userActions, Option.some.injEq, Prod.mk.injEq] at hm
      obtain ⟨rfl, rfl⟩ := hm
      simp only [execute, mapErr_eq_ok, withdraw, bind_eq_ok, unwrap_eq_ok, pure_eq,
        Except.ok.injEq] at h
      obtain ⟨_, ⟨_, _, res, hres, interests, hhead, action, haction, w₁, h₁, tokens, ht, w₂, h₂,
        w₃, h₃, rfl⟩, rfl⟩ := h
      have hactions := hsettled hres
      rw [hactions] at haction
      simp only [Ledger.settle, List.getElem?_cons_zero, Option.some.injEq] at haction hactions
      rw [haction] at hactions
      have hop : action.op = .withdraw := by rw [← haction]
      have hasset : action.asset = asset := by rw [← haction]
      refine ⟨res, [(action, interests)], hres, zip_single hres hactions hhead, hactions.symm, ?_⟩
      rw [settleActions_single, hactions]
      simp only [settleAction, hop, hasset, bind_eq_ok, unwrap_eq_ok]
      exact ⟨tokens, (transferOut_frame h₁).1.pool ▸ ht, w₁, h₁, w₂, h₂, h₃⟩
  | borrow asset account amount =>
      simp only [Message.userActions, Option.some.injEq, Prod.mk.injEq] at hm
      obtain ⟨rfl, rfl⟩ := hm
      simp only [execute, mapErr_eq_ok, borrow, bind_eq_ok, unwrap_eq_ok] at h
      obtain ⟨_, _, res, hres, interests, hhead, w₁, h₁, tokens, ht, w₂, h₂, minted, hminted,
        h₃⟩ := h
      refine ⟨res, [(⟨.borrow, asset, amount⟩, interests)], hres,
        zip_single hres (hsettled hres) hhead, (hsettled hres).symm, ?_⟩
      rw [settleActions_single]
      simp only [settleAction, bind_eq_ok, unwrap_eq_ok]
      exact ⟨tokens, (transferOut_frame h₁).1.pool ▸ ht, w₁, h₁, w₂, h₂, minted, hminted, h₃⟩
  | repay asset account amount =>
      simp only [Message.userActions, Option.some.injEq, Prod.mk.injEq] at hm
      obtain ⟨rfl, rfl⟩ := hm
      simp only [execute, mapErr_eq_ok, repay, bind_eq_ok, unwrap_eq_ok, pure_eq,
        Except.ok.injEq] at h
      obtain ⟨_, ⟨_, _, res, hres, interests, hhead, action, haction, w₁, h₁, tokens, ht, w₂, h₂,
        w₃, h₃, rfl⟩, rfl⟩ := h
      have hactions := hsettled hres
      rw [hactions] at haction
      simp only [Ledger.settle, List.getElem?_cons_zero, Option.some.injEq] at haction hactions
      rw [haction] at hactions
      have hop : action.op = .repay := by rw [← haction]
      have hasset : action.asset = asset := by rw [← haction]
      refine ⟨res, [(action, interests)], hres, zip_single hres hactions hhead, hactions.symm, ?_⟩
      rw [settleActions_single, hactions]
      simp only [settleAction, hop, hasset, bind_eq_ok, unwrap_eq_ok]
      exact ⟨tokens, (transferIn_frame h₁).1.pool ▸ ht, w₁, h₁, w₂, h₂, h₃⟩
  | multiOp op account =>
      simp only [Message.userActions, Option.some.injEq, Prod.mk.injEq] at hm
      obtain ⟨rfl, rfl⟩ := hm
      simp only [execute, mapErr_eq_ok, multiOp, bind_eq_ok] at h
      obtain ⟨res, hres, h⟩ := h
      obtain ⟨st, hst, -, -⟩ := LendingPoolStorage.accountForAccountActions_ok hres
      have hlength := (AccountActionsState.applyActions_length hst).le
      exact ⟨res, _, hres, rfl, List.map_fst_zip hlength, h⟩
  | _ => cases hm

end World

end AbaxLending
