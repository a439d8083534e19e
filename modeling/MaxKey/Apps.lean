import MaxKey.KeyedTable

namespace MaxKey

/-- A registered application. -/
structure Apps where
  id : String
  secret : Option String := none
  loginUrl : Option String := none
  protocol : Option String := none
  credential : Int := 0
  sharedUsername : Option String := none
  sharedPassword : Option String := none
  systemUserAttr : Option String := none
  isAdapter : Int := 0
  adapter : Option String := none
  status : Int := 0
  deriving DecidableEq

namespace Apps

def USER_DEFINED : Int := 3
def SHARED : Int := 2
def SYSTEM : Int := 1
def NONE : Int := 0

end Apps

namespace AppsService

def get (apps : KeyedTable Apps.id) (id : String) : Option Apps :=
  (apps.select fun app => app.id = id).head?

theorem get_eq_some {apps : KeyedTable Apps.id} {id : String} {app : Apps}
    (h : get apps id = some app) : app ∈ apps.rows ∧ app.id = id := by
  obtain ⟨hmem, hid⟩ := KeyedTable.mem_select.mp (List.mem_of_mem_head? h)
  exact ⟨hmem, of_decide_eq_true hid⟩

end AppsService

end MaxKey
