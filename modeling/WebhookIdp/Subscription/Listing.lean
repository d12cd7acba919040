import WebhookIdp.Base.Paging
import WebhookIdp.Subscription.UseCases

/-!
# Listing the subscriptions of a tenant page by page

`list` counts the matching documents and cuts its page from the order in which that one query happens to
return them. Without a sort nothing ties the orders of two pages together, so all pages give every
subscription once only when there is at most one page, and each document on it can be read back.
-/

namespace WebhookIdp.Subscription

open SubscriptionMongoRepository (list query)

section Listing

variable [Platform]

def matching (store : SubscriptionStore) (tenantId : TenantId) (filters : SubscriptionListFilters) :
    List SubscriptionRecord :=
  store.docs.filter (query tenantId filters)

/-- The pages `1` to `ceil(total / n)`, page `k + 1` returned in the order `orders k`, give each matching
subscription once, and each of them their number. -/
def ListsAll (store : SubscriptionStore) (tenantId : TenantId) (filters : SubscriptionListFilters) (n : Nat)
    (hn : 0 < n) (orders : Nat → NaturalOrder) : Prop :=
  ∃ result : Nat → PaginatedResult WebhookSubscription,
    (∀ k < Paging.pageCount (matching store tenantId filters).length n,
      list store (orders k) tenantId filters ⟨k + 1, n, k.succ_pos, hn⟩ = .ok (result k) ∧
        (result k).total = (matching store tenantId filters).length) ∧
      (((List.range (Paging.pageCount (matching store tenantId filters).length n)).flatMap fun k =>
        (result k).items).map toDocument).Perm (matching store tenantId filters)

variable {store : SubscriptionStore} {tenantId : TenantId} {filters : SubscriptionListFilters} {n : Nat}

theorem matching_nodup : (matching store tenantId filters).Nodup :=
  store.docs_nodup.filter _

theorem list_eq_ok_iff {order : NaturalOrder} {pagination : Pagination}
    {result : PaginatedResult WebhookSubscription} :
    list store order tenantId filters pagination = .ok result ↔
      (Paging.page (order.arrange (matching store tenantId filters)) pagination.pageSize
        (pagination.page - 1)).mapM toAggregate = .ok result.items ∧
      result.page = pagination.page ∧ result.pageSize = pagination.pageSize ∧
      result.total = (matching store tenantId filters).length := by
  rw [list, Throwing.bind_eq_ok_iff]
  refine ⟨fun h => ?_, fun h => ?_⟩
  · obtain ⟨items, hitems, hresult⟩ := h
    cases hresult
    exact ⟨hitems, rfl, rfl, rfl⟩
  · obtain ⟨hitems, hpage, hsize, htotal⟩ := h
    obtain ⟨items, page, pageSize, total⟩ := result
    dsimp only at hitems hpage hsize htotal
    subst hpage hsize htotal
    exact ⟨items, hitems, rfl⟩

theorem map_toDocument_items (hurl : URL.ReparsesSerialised) {records : List SubscriptionRecord}
    {items : List WebhookSubscription} (hmem : ∀ record ∈ records, record ∈ store.docs)
    (hread : records.mapM toAggregate = .ok items) : items.map toDocument = records := by
  rw [Throwing.mapM_eq_ok_iff] at hread
  induction hread with
  | nil => rfl
  | cons hab _ ih =>
      rw [List.forall_mem_cons] at hmem
      rw [List.map_cons, ih hmem.2, (SubscriptionStore.toDocument_of_mem hurl hmem.1 hab).1]

theorem mem_docs_of_mem_page {order : NaturalOrder} {k : Nat} {record : SubscriptionRecord}
    (h : record ∈ Paging.page (order.arrange (matching store tenantId filters)) n k) : record ∈ store.docs := by
  have harranged := List.mem_of_mem_drop (List.mem_of_mem_take h)
  exact (List.mem_filter.mp ((order.perm _).mem_iff.mp harranged)).1

theorem toAggregate_eq_ok_iff_length (hurl : URL.ReparsesSerialised) {record : SubscriptionRecord}
    (h : record ∈ store.docs) :
    (∃ subscription, toAggregate record = .ok subscription) ↔ Text.length record.targetUrl ≤ MAX_LENGTH := by
  obtain ⟨writer, rfl⟩ := store.written record h
  refine ⟨fun hread => ?_, fun hlength => ⟨writer.drained, toAggregate_toDocument hurl hlength⟩⟩
  obtain ⟨subscription, hread⟩ := hread
  exact length_le_of_toAggregate_eq_ok hread

/-- The listing is complete when each page can be read back and the pages cut from the orders are all the
matching documents. -/
theorem listsAll_iff (hurl : URL.ReparsesSerialised) (hn : 0 < n) {orders : Nat → NaturalOrder} :
    ListsAll store tenantId filters n hn orders ↔
      (∀ k < Paging.pageCount (matching store tenantId filters).length n,
        ∀ record ∈ Paging.page ((orders k).arrange (matching store tenantId filters)) n k,
          Text.length record.targetUrl ≤ MAX_LENGTH) ∧
      (Paging.pages (fun k => (orders k).arrange (matching store tenantId filters)) n
        (Paging.pageCount (matching store tenantId filters).length n)).Perm (matching store tenantId filters) := by
  have hpages : ∀ result : Nat → PaginatedResult WebhookSubscription,
      (∀ k < Paging.pageCount (matching store tenantId filters).length n,
        (Paging.page ((orders k).arrange (matching store tenantId filters)) n k).mapM toAggregate =
          .ok (result k).items) →
      ((List.range (Paging.pageCount (matching store tenantId filters).length n)).flatMap fun k =>
        (result k).items).map toDocument =
          Paging.pages (fun k => (orders k).arrange (matching store tenantId filters)) n
            (Paging.pageCount (matching store tenantId filters).length n) := by
    intro result hread
    rw [List.map_flatMap, Paging.pages]
    apply List.flatMap_congr
    intro k hk
    exact map_toDocument_items hurl (fun _ => mem_docs_of_mem_page) (hread k (List.mem_range.mp hk))
  refine ⟨fun h => ?_, fun h => ?_⟩
  · obtain ⟨result, hresult, hperm⟩ := h
    have hread := fun k hk => (list_eq_ok_iff.mp (hresult k hk).1).1
    rw [hpages result hread] at hperm
    refine ⟨fun k hk record hrecord => ?_, hperm⟩
    rw [← toAggregate_eq_ok_iff_length hurl (mem_docs_of_mem_page hrecord)]
    exact Throwing.exists_mapM_eq_ok_iff.mp ⟨_, hread k hk⟩ record hrecord
  · obtain ⟨hread, hperm⟩ := h
    have hitems : ∀ k, ∃ items, k < Paging.pageCount (matching store tenantId filters).length n →
        (Paging.page ((orders k).arrange (matching store tenantId filters)) n k).mapM toAggregate = .ok items := by
      intro k
      by_cases hk : k < Paging.pageCount (matching store tenantId filters).length n
      · obtain ⟨items, hitems⟩ := Throwing.exists_mapM_eq_ok_iff.mpr fun record hrecord =>
          (toAggregate_eq_ok_iff_length hurl (mem_docs_of_mem_page hrecord)).mpr (hread k hk record hrecord)
        exact ⟨items, fun _ => hitems⟩
      · exact ⟨[], fun h => absurd h hk⟩
    choose items hitems using hitems
    refine ⟨fun k => ⟨items k, k + 1, n, (matching store tenantId filters).length⟩, fun k hk => ⟨?_, rfl⟩, ?_⟩
    · exact list_eq_ok_iff.mpr ⟨hitems k hk, rfl, rfl, rfl⟩
    · rw [hpages _ hitems]
      exact hperm

def NaturalOrder.ofPerm {records arranged : List SubscriptionRecord} (h : arranged.Perm records) :
    NaturalOrder where
  arrange found := if found = records then arranged else found
  perm found := by
    split
    · rename_i heq
      rw [heq]
      exact h
    · exact List.Perm.refl found

theorem listsAll_of_one_order (hurl : URL.ReparsesSerialised) (hn : 0 < n) (order : NaturalOrder)
    (hread : ∀ record ∈ matching store tenantId filters, Text.length record.targetUrl ≤ MAX_LENGTH) :
    ListsAll store tenantId filters n hn fun _ => order := by
  have hperm := order.perm (matching store tenantId filters)
  rw [listsAll_iff hurl]
  refine ⟨fun k _ record hrecord => ?_, ?_⟩
  · apply hread
    exact hperm.mem_iff.mp (List.mem_of_mem_drop (List.mem_of_mem_take hrecord))
  · rw [← hperm.length_eq, Paging.pages_const_pageCount hn]
    exact hperm

/-- Whatever order each query returns, the pages give every matching subscription once, exactly when they
fit on one page and each can be read back. -/
theorem listsAll_iff_one_page (hurl : URL.ReparsesSerialised) (store : SubscriptionStore) (tenantId : TenantId)
    (filters : SubscriptionListFilters) (n : Nat) (hn : 0 < n) :
    (∀ orders, ListsAll store tenantId filters n hn orders) ↔
      (matching store tenantId filters).length ≤ n ∧
        ∀ record ∈ matching store tenantId filters, Text.length record.targetUrl ≤ MAX_LENGTH := by
  refine ⟨fun hall => ⟨?_, fun record hrecord => ?_⟩, fun h orders => ?_⟩
  · rw [← Paging.forall_perm_pages_iff hn matching_nodup]
    intro arrangement hperm
    obtain ⟨-, hpages⟩ := (listsAll_iff hurl hn).mp (hall fun k => NaturalOrder.ofPerm (hperm k))
    simpa [NaturalOrder.ofPerm] using hpages
  · obtain ⟨hread, -⟩ := (listsAll_iff hurl hn).mp (hall fun _ => .insertion)
    have hpages := Paging.pages_const_pageCount hn (matching store tenantId filters)
    rw [← hpages, Paging.pages, List.mem_flatMap] at hrecord
    obtain ⟨k, hk, hrecord⟩ := hrecord
    exact hread k (List.mem_range.mp hk) record hrecord
  · obtain ⟨hlength, hread⟩ := h
    rw [listsAll_iff hurl]
    refine ⟨fun k _ record hrecord => ?_, ?_⟩
    · apply hread
      exact ((orders k).perm _).mem_iff.mp (List.mem_of_mem_drop (List.mem_of_mem_take hrecord))
    · exact Paging.perm_pages_of_length_le hn hlength fun k => (orders k).perm _

end Listing

section Sample

attribute [local instance] samplePlatform

/-- Two subscriptions on one page, the later one first. -/
theorem listsAll_sample :
    ListsAll twoSubscriptions.subscriptions sampleTenant ⟨none, none⟩ 2 Nat.two_pos fun _ =>
      ⟨List.reverse, List.reverse_perm⟩ :=
  (listsAll_iff_one_page samplePlatform_reparsesSerialised twoSubscriptions.subscriptions sampleTenant ⟨none, none⟩ 2
    Nat.two_pos).mpr ⟨by decide, by decide⟩ _

/-- Two subscriptions on two pages, the second page cut from the other order: the first subscription comes
twice and the other one never. -/
theorem listing_repeats_subscription :
    ¬ ∀ orders, ListsAll twoSubscriptions.subscriptions sampleTenant ⟨none, none⟩ 1 Nat.one_pos orders := by
  intro hall
  obtain ⟨-, hperm⟩ := (listsAll_iff samplePlatform_reparsesSerialised Nat.one_pos).mp
    (hall fun k => if k = 1 then ⟨List.reverse, List.reverse_perm⟩ else .insertion)
  revert hperm
  decide

end Sample

end WebhookIdp.Subscription
