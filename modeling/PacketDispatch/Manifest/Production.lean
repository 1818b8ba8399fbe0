import PacketDispatch.Manifest.Production.Page0
import PacketDispatch.Manifest.Production.Page1
import PacketDispatch.Manifest.Production.Page2
import PacketDispatch.Manifest.Production.Page3
import PacketDispatch.Manifest.Production.Page4
import PacketDispatch.Manifest.Production.Page5

/-!
# The production manifest

Every opcode that the server knows, in the order of the opcodes, a page of 256 opcodes after
another.
-/

namespace PacketDispatch
namespace Manifest

/-- The rows of the production manifest. -/
def production : List Row :=
  Production.page0 ++ Production.page1 ++ Production.page2 ++ Production.page3 ++
    Production.page4 ++ Production.page5

end Manifest
end PacketDispatch
