import Mapecd.Map.Rule

/-! The table of static rules. -/
namespace Mapecd

/-- What the rules of one source table have in common. -/
structure RuleTable where
  ipv6Len : U8
  ipv6Len_le : ipv6Len.toNat ≤ 128
  ipv4Len : U8
  ipv4Len_le : ipv4Len.toNat ≤ 32
  eaLength : U8
  portParams : PortParams

/-- The first 48 bits of the IPv6 prefix and the IPv4 prefix make a rule. -/
def RuleTable.rule (table : RuleTable) (brAddress : Ipv6Addr) (entry : Nat × Nat) : MapRule :=
  { ipv6Prefix := ⟨BitVec.ofNat 48 entry.1 ++ (0 : BitVec 80), table.ipv6Len, table.ipv6Len_le⟩
    ipv4Prefix := ⟨BitVec.ofNat 32 entry.2, table.ipv4Len, table.ipv4Len_le⟩
    eaLength := table.eaLength
    isFmr := true
    brAddress := brAddress
    portParams := table.portParams }

def RuleTable.rules (table : RuleTable) (brAddress : Ipv6Addr) (entries : List (Nat × Nat)) :
    List MapRule :=
  entries.map (table.rule brAddress)

def table38 : RuleTable := ⟨38, by decide, 22, by decide, 18, ⟨4, 8⟩⟩

def table31 : RuleTable := ⟨31, by decide, 15, by decide, 25, ⟨4, 8⟩⟩

def table38_20 : RuleTable := ⟨38, by decide, 20, by decide, 18, ⟨6, 6⟩⟩

/-- The entries with 22 bits of IPv4 prefix. -/
def ruleprefix38 : List MapRule :=
  table38.rules 0x20010260070000010000000000010275 [
    (0x24047a820000, 0x7dc4d000), (0x24047a820400, 0x7dc4d400), (0x24047a820800, 0x7dc68c00),
    (0x24047a820c00, 0x7dc69000), (0x24047a821000, 0x7dc6d400), (0x24047a821400, 0x7dc6f400),
    (0x24047a821800, 0x7a836800), (0x24047a821c00, 0x7dc31400), (0x24047a822000, 0x85cba000),
    (0x24047a822400, 0x85cba400), (0x24047a822800, 0x85cba800), (0x24047a822c00, 0x85cbac00),
    (0x24047a823000, 0x85cbb000), (0x24047a823400, 0x85cbb400), (0x24047a823800, 0x85cbb800),
    (0x24047a823c00, 0x85cbbc00), (0x24047a824000, 0x85d10000), (0x24047a824400, 0x85d10400),
    (0x24047a824800, 0x85d10800), (0x24047a824c00, 0x85d10c00), (0x24047a825000, 0x85d11000),
    (0x24047a825400, 0x85d11400), (0x24047a825800, 0x85d11800), (0x24047a825c00, 0x85d11c00),
    (0x24047a826000, 0x85ccc000), (0x24047a826400, 0x85ccc400), (0x24047a826800, 0x85ccc800),
    (0x24047a826c00, 0x85cccc00), (0x24047a827000, 0x85ccd000), (0x24047a827400, 0x85ccd400),
    (0x24047a827800, 0x85ccd800), (0x24047a827c00, 0x85ccdc00), (0x24047a828000, 0x85cbe000),
    (0x24047a828400, 0x85cbe400), (0x24047a828800, 0x85cbe800), (0x24047a828c00, 0x85cbec00),
    (0x24047a829000, 0x85cbf000), (0x24047a829400, 0x85cbf400), (0x24047a829800, 0x85cbf800),
    (0x24047a829c00, 0x85cbfc00), (0x24047a82a000, 0x7dc2c000), (0x24047a82a400, 0x7dc2c400),
    (0x24047a82a800, 0x7dc2c800), (0x24047a82ac00, 0x7dc2cc00), (0x24047a82b000, 0x77ef8000),
    (0x24047a82b400, 0x77ef8400), (0x24047a82b800, 0x77ef8800), (0x24047a82bc00, 0x77ef8c00),
    (0x24047a82c000, 0x7dc22000), (0x24047a82c400, 0x7dc22400), (0x24047a82c800, 0x7dc22800),
    (0x24047a82cc00, 0x7dc22c00), (0x24047a82d000, 0x7dc31800), (0x24047a82d400, 0x7dc31c00),
    (0x24047a82d800, 0x7a82c000), (0x24047a82dc00, 0x7a82c400), (0x24047a82e000, 0x7a874000),
    (0x24047a82e400, 0x7a874400), (0x24047a82e800, 0x7dc0f000), (0x24047a82ec00, 0x7dc0f400),
    (0x24047a82f000, 0x7dc1b000), (0x24047a82f400, 0x7dc1b400), (0x24047a82f800, 0x7a82b000),
    (0x24047a82fc00, 0x7a82b400), (0x24047a830000, 0x7a831800), (0x24047a830400, 0x7a831c00),
    (0x24047a830800, 0x7a832000), (0x24047a830c00, 0x7a832400), (0x24047a831000, 0x77f37000),
    (0x24047a831400, 0x77f37400), (0x24047a831800, 0xdb6b8800), (0x24047a831c00, 0xdb6b8c00),
    (0x24047a832000, 0xdc90e000), (0x24047a832400, 0xdc90e400), (0x24047a832800, 0x7dc24000),
    (0x24047a832c00, 0x7dc24400), (0x24047a833000, 0xddab2800), (0x24047a833400, 0xddab2c00),
    (0x24047a833800, 0x6ee95000), (0x24047a833c00, 0x6ee95400), (0x24047a834000, 0x77f1b800),
    (0x24047a834400, 0x77f1bc00), (0x24047a834800, 0x77f33800), (0x24047a834c00, 0x77f33c00),
    (0x24047a835000, 0x7dc70800), (0x24047a835400, 0x7dc70c00), (0x24047a835800, 0x7dc46000),
    (0x24047a835c00, 0x7dc46400), (0x24047a836000, 0x7a826800), (0x24047a836400, 0x7a826c00),
    (0x24047a836800, 0x7a827000), (0x24047a836c00, 0x7a827400), (0x24047a837000, 0x31819800),
    (0x24047a837400, 0x31819c00), (0x24047a837800, 0x3181c000), (0x24047a837c00, 0x3181c400),
    (0x24047a838000, 0x31817800), (0x24047a838400, 0x31817c00), (0x24047a838800, 0xddaa2800),
    (0x24047a838c00, 0xddaa2c00), (0x24047a839000, 0x3cef6c00), (0x24047a839400, 0x3cec1800),
    (0x24047a839800, 0x7a827800), (0x24047a839c00, 0x3cec5400), (0x24047a83a000, 0x3cefb400),
    (0x24047a83a400, 0x3cefb800), (0x24047a83a800, 0x766e8800), (0x24047a83ac00, 0x77f28800),
    (0x24047a83b000, 0x3ceebc00), (0x24047a83b400, 0x3ceecc00), (0x24047a83b800, 0x7a863400),
    (0x24047a83bc00, 0x77f43c00), (0x24047a83c000, 0x77f36400), (0x24047a83c400, 0xddaaec00),
    (0x24047a83c800, 0xddab3000), (0x24047a83cc00, 0x3cee2400), (0x24047a83d000, 0x7dc3ec00),
    (0x24047a83d400, 0x3cec1400), (0x24047a83d800, 0x766c4c00), (0x24047a83dc00, 0x766e6c00),
    (0x24047a83e000, 0x766e7000), (0x24047a83e400, 0x766f5800), (0x24047a83e800, 0x766fe400),
    (0x24047a83ec00, 0x766fec00), (0x24047a83f000, 0x77f19400), (0x24047a83f400, 0x77f27c00),
    (0x24047a83f800, 0x7dc21c00), (0x24047a83fc00, 0x7dc26000)] ++
  table38.rules 0x20010260070000010000000000010276 [
    (0x24047a860000, 0x85cc8000), (0x24047a860400, 0x85cc8400), (0x24047a860800, 0x85cc8800),
    (0x24047a860c00, 0x85cc8c00), (0x24047a861000, 0x85cc9000), (0x24047a861400, 0x85cc9400),
    (0x24047a861800, 0x85cc9800), (0x24047a861c00, 0x85cc9c00), (0x24047a862000, 0x85cca000),
    (0x24047a862400, 0x85cca400), (0x24047a862800, 0x85cca800), (0x24047a862c00, 0x85ccac00),
    (0x24047a863000, 0x85ccb000), (0x24047a863400, 0x85ccb400), (0x24047a863800, 0x85ccb800),
    (0x24047a863c00, 0x85ccbc00), (0x24047a864000, 0x85cbc000), (0x24047a864400, 0x85cbc400),
    (0x24047a864800, 0x85cbc800), (0x24047a864c00, 0x85cbcc00), (0x24047a865000, 0x85cbd000),
    (0x24047a865400, 0x85cbd400), (0x24047a865800, 0x85cbd800), (0x24047a865c00, 0x85cbdc00),
    (0x24047a866000, 0x85cc0000), (0x24047a866400, 0x85cc0400), (0x24047a866800, 0x85cc0800),
    (0x24047a866c00, 0x85cc0c00), (0x24047a867000, 0x85cc1000), (0x24047a867400, 0x85cc1400),
    (0x24047a867800, 0x85cc1800), (0x24047a867c00, 0x85cc1c00), (0x24047a868000, 0x85cc4000),
    (0x24047a868400, 0x85cc4400), (0x24047a868800, 0x85cc4800), (0x24047a868c00, 0x85cc4c00),
    (0x24047a869000, 0x85cc5000), (0x24047a869400, 0x85cc5400), (0x24047a869800, 0x85cc5800),
    (0x24047a869c00, 0x85cc5c00), (0x24047a86a000, 0xddab7000), (0x24047a86a400, 0xddab7400),
    (0x24047a86a800, 0xddab7800), (0x24047a86ac00, 0xddab7c00), (0x24047a86b000, 0x7dc3b800),
    (0x24047a86b400, 0x7dc4d800), (0x24047a86b800, 0xddab6c00), (0x24047a86bc00, 0xdb6b9800),
    (0x24047a86c000, 0x3cef8000), (0x24047a86c400, 0x3cef8400), (0x24047a86c800, 0x3cef8800),
    (0x24047a86cc00, 0x3cef8c00), (0x24047a86d000, 0x766e5000), (0x24047a86d400, 0x766e5400),
    (0x24047a86d800, 0x766e5800), (0x24047a86dc00, 0x766e5c00), (0x24047a86e000, 0x7dc2b000),
    (0x24047a86e400, 0x7dc2b400), (0x24047a86e800, 0x7dc2b800), (0x24047a86ec00, 0x7dc2bc00),
    (0x24047a86f000, 0x3cef7000), (0x24047a86f400, 0x3cef7400), (0x24047a86f800, 0x3cef7800),
    (0x24047a86fc00, 0x3cef7c00), (0x24047a870000, 0x7dc33800), (0x24047a870400, 0x7dc33c00),
    (0x24047a870800, 0x7dc42000), (0x24047a870c00, 0x7dc42400), (0x24047a871000, 0x766c5000),
    (0x24047a871400, 0x766c5400), (0x24047a871800, 0x766f5000), (0x24047a871c00, 0x766f5400),
    (0x24047a872000, 0xdae3b000), (0x24047a872400, 0xdae3b400), (0x24047a872800, 0x3cefd000),
    (0x24047a872c00, 0x3cefd400), (0x24047a873000, 0x766d3800), (0x24047a873400, 0x766d3c00),
    (0x24047a873800, 0x7a835800), (0x24047a873c00, 0x7a835c00), (0x24047a874000, 0x7a836000),
    (0x24047a874400, 0x7a836400), (0x24047a874800, 0x7a823000), (0x24047a874c00, 0x7a823400),
    (0x24047a875000, 0x7dc6e000), (0x24047a875400, 0x7dc6e400), (0x24047a875800, 0x77f36800),
    (0x24047a875c00, 0x77f36c00), (0x24047a876000, 0x766d9800), (0x24047a876400, 0x766d9c00),
    (0x24047a876800, 0x766f6800), (0x24047a876c00, 0x766f6c00), (0x24047a877000, 0x77ef3000),
    (0x24047a877400, 0x77ef3400), (0x24047a877800, 0x7a821000), (0x24047a877c00, 0x7a821400),
    (0x24047a878000, 0x7dc48000), (0x24047a878400, 0x7dc48400), (0x24047a878800, 0x7a833000),
    (0x24047a878c00, 0x7a833400), (0x24047a879000, 0x7a866800), (0x24047a879400, 0x7a866c00),
    (0x24047a879800, 0x3ceed000), (0x24047a879c00, 0x3ceed400), (0x24047a87a000, 0xdc90c000),
    (0x24047a87a400, 0xdc90c400), (0x24047a87a800, 0x6ee93000), (0x24047a87ac00, 0x7a835400),
    (0x24047a87b000, 0x6fa99800), (0x24047a87b400, 0x77f18400), (0x24047a87b800, 0x77f18800),
    (0x24047a87bc00, 0x77f44400), (0x24047a87c000, 0x3cec5c00), (0x24047a87c400, 0x3ced6c00),
    (0x24047a87c800, 0x3cee0c00), (0x24047a87cc00, 0x3cee2c00), (0x24047a87d000, 0x3ceed800),
    (0x24047a87d400, 0x3ceee800), (0x24047a87d800, 0x31814800), (0x24047a87dc00, 0x6ee90400),
    (0x24047a87e000, 0x6ee9c000), (0x24047a87e400, 0x77f31400), (0x24047a87e800, 0x77f31800),
    (0x24047a87ec00, 0x7dc10400), (0x24047a87f000, 0x7dc19400), (0x24047a87f400, 0x766e4c00),
    (0x24047a87f800, 0x766e6000), (0x24047a87fc00, 0x7dc19800)]

/-- The entries with 15 bits of IPv4 prefix. -/
def ruleprefix31 : List MapRule :=
  table31.rules 0x20010260070000010000000000010275 [
    (0x24047a800000, 0x85c80000)] ++
  table31.rules 0x20010260070000010000000000010276 [
    (0x24047a840000, 0x85ce0000)] ++
  table31.rules 0x24049200022501000000000000000064 [
    (0x240b00100000, 0x6a480000), (0x240b00120000, 0x0e080000), (0x240b02500000, 0x0e0a0000),
    (0x240b02520000, 0x0e0c0000)]

/-- The entries with 20 bits of IPv4 prefix. -/
def ruleprefix38_20 : List MapRule :=
  table38_20.rules 0x20010380a12000000000000000000009 [
    (0x240040500000, 0x99f00000), (0x240040500400, 0x99f01000), (0x240040500800, 0x99f02000),
    (0x240040500c00, 0x99f03000), (0x240040501000, 0x99f04000), (0x240040501400, 0x99f05000),
    (0x240040501800, 0x99f06000), (0x240040501c00, 0x99f07000), (0x240040502000, 0x99f08000),
    (0x240040502400, 0x99f09000), (0x240040502800, 0x99f0a000), (0x240040502c00, 0x99f0b000),
    (0x240040503000, 0x99f0c000), (0x240040503400, 0x99f0d000), (0x240040503800, 0x99f0e000),
    (0x240040503c00, 0x99f0f000), (0x240040504000, 0x99f10000), (0x240040504400, 0x99f11000),
    (0x240040504800, 0x99f12000), (0x240040504c00, 0x99f13000), (0x240040505000, 0x99f14000),
    (0x240040505400, 0x99f15000), (0x240040505800, 0x99f16000), (0x240040505c00, 0x99f17000),
    (0x240040506000, 0x99f18000), (0x240040506400, 0x99f19000), (0x240040506800, 0x99f1a000),
    (0x240040506c00, 0x99f1b000), (0x240040507000, 0x99f1c000), (0x240040507400, 0x99f1d000),
    (0x240040507800, 0x99f1e000), (0x240040507c00, 0x99f1f000), (0x240040508000, 0x99f20000),
    (0x240040508400, 0x99f21000), (0x240040508800, 0x99f22000), (0x240040508c00, 0x99f23000),
    (0x240040509000, 0x99f24000), (0x240040509400, 0x99f25000), (0x240040509800, 0x99f26000),
    (0x240040509c00, 0x99f27000), (0x24004050a000, 0x99f28000), (0x24004050a400, 0x99f29000),
    (0x24004050a800, 0x99f2a000), (0x24004050ac00, 0x99f2b000), (0x24004050b000, 0x99f2c000),
    (0x24004050b400, 0x99f2d000), (0x24004050b800, 0x99f2e000), (0x24004050bc00, 0x99f2f000),
    (0x24004050c000, 0x99f30000), (0x24004050c400, 0x99f31000), (0x24004050c800, 0x99f32000),
    (0x24004050cc00, 0x99f33000), (0x24004050d000, 0x99f34000), (0x24004050d400, 0x99f35000),
    (0x24004050d800, 0x99f36000), (0x24004050dc00, 0x99f37000), (0x24004050e000, 0x99f38000),
    (0x24004050e400, 0x99f39000), (0x24004050e800, 0x99f3a000), (0x24004050ec00, 0x99f3b000),
    (0x24004050f000, 0x99f3c000), (0x24004050f400, 0x99f3d000), (0x24004050f800, 0x99f3e000),
    (0x24004050fc00, 0x99f3f000), (0x240040510000, 0x7a1a0000), (0x240040510400, 0x7a1a1000),
    (0x240040510800, 0x7a1a2000), (0x240040510c00, 0x7a1a3000), (0x240040511000, 0x7a1a4000),
    (0x240040511400, 0x7a1a5000), (0x240040511800, 0x7a1a6000), (0x240040511c00, 0x7a1a7000),
    (0x240040512000, 0x72924000), (0x240040512400, 0x72925000), (0x240040512800, 0x72926000),
    (0x240040512c00, 0x72927000), (0x240040513000, 0x7294c000), (0x240040513400, 0x7294d000),
    (0x240040513800, 0x7294e000), (0x240040513c00, 0x7294f000), (0x240040514000, 0x7296c000),
    (0x240040514400, 0x7296d000), (0x240040514800, 0x7296e000), (0x240040514c00, 0x7296f000),
    (0x240040515000, 0x72a34000), (0x240040515400, 0x72a35000), (0x240040515800, 0x72a36000),
    (0x240040515c00, 0x72a37000), (0x240040516000, 0x72a38000), (0x240040516400, 0x72a39000),
    (0x240040516800, 0x72a3a000), (0x240040516c00, 0x72a3b000), (0x240040517000, 0x72a74000),
    (0x240040517400, 0x72a75000), (0x240040517800, 0x72a76000), (0x240040517c00, 0x72a77000),
    (0x240040518000, 0x72acc000), (0x240040518400, 0x72acd000), (0x240040518800, 0x72ace000),
    (0x240040518c00, 0x72acf000), (0x240040519000, 0x72b14000), (0x240040519400, 0x72b15000),
    (0x240040519800, 0x72b16000), (0x240040519c00, 0x72b17000), (0x24004051a000, 0x76004000),
    (0x24004051a400, 0x76005000), (0x24004051a800, 0x76006000), (0x24004051ac00, 0x76007000),
    (0x24004051b000, 0x76074000), (0x24004051b400, 0x76075000), (0x24004051b800, 0x76076000),
    (0x24004051bc00, 0x76077000), (0x24004051c000, 0x7608c000), (0x24004051c400, 0x7608d000),
    (0x24004051c800, 0x7608e000), (0x24004051cc00, 0x7608f000), (0x24004051d000, 0x76090000),
    (0x24004051d400, 0x76091000), (0x24004051d800, 0x76092000), (0x24004051dc00, 0x76093000),
    (0x24004051e000, 0x7bda4000), (0x24004051e400, 0x7bda5000), (0x24004051e800, 0x7bda6000),
    (0x24004051ec00, 0x7bda7000), (0x24004051f000, 0x7bdc8000), (0x24004051f400, 0x7bdc9000),
    (0x24004051f800, 0x7bdca000), (0x24004051fc00, 0x7bdcb000), (0x240040520000, 0x7be1c000),
    (0x240040520400, 0x7be1d000), (0x240040520800, 0x7be1e000), (0x240040520c00, 0x7be1f000),
    (0x240040521000, 0x99860000), (0x240040521400, 0x99861000), (0x240040521800, 0x99862000),
    (0x240040521c00, 0x99863000), (0x240040522000, 0x998b8000), (0x240040522400, 0x998b9000),
    (0x240040522800, 0x998ba000), (0x240040522c00, 0x998bb000), (0x240040523000, 0x99974000),
    (0x240040523400, 0x99975000), (0x240040523800, 0x99976000), (0x240040523c00, 0x99977000),
    (0x240040524000, 0x99aa4000), (0x240040524400, 0x99aa5000), (0x240040524800, 0x99aa6000),
    (0x240040524c00, 0x99aa7000), (0x240040525000, 0x99aac000), (0x240040525400, 0x99aad000),
    (0x240040525800, 0x99aae000), (0x240040525c00, 0x99aaf000), (0x240040526000, 0x3d7f8000),
    (0x240040526400, 0x3d7f9000), (0x240040526800, 0x72920000), (0x240040526c00, 0x72921000),
    (0x240040527000, 0x72928000), (0x240040527400, 0x72929000), (0x240040527800, 0x72944000),
    (0x240040527c00, 0x72945000), (0x240040528000, 0x7294a000), (0x240040528400, 0x7294b000),
    (0x240040528800, 0x72950000), (0x240040528c00, 0x72951000), (0x240040529000, 0x7296a000),
    (0x240040529400, 0x7296b000), (0x240040529800, 0x729e0000), (0x240040529c00, 0x729e1000),
    (0x240040530000, 0x72a28000), (0x240040530400, 0x72a29000), (0x240040530800, 0x72a30000),
    (0x240040530c00, 0x72a31000), (0x240040531000, 0x72a5e000), (0x240040531400, 0x72a5f000),
    (0x240040531800, 0x72a7c000), (0x240040531c00, 0x72a7d000), (0x240040532000, 0x72b18000),
    (0x240040532400, 0x72b19000), (0x240040532800, 0x72b2e000), (0x240040532c00, 0x72b2f000),
    (0x240040533000, 0x76010000), (0x240040533400, 0x76011000), (0x240040533800, 0x7603c000),
    (0x240040533c00, 0x7603d000), (0x240040534000, 0x76064000), (0x240040534400, 0x76065000),
    (0x240040534800, 0x7607a000), (0x240040534c00, 0x7607b000), (0x240040535000, 0x7607c000),
    (0x240040535400, 0x7607d000), (0x240040535800, 0x76094000), (0x240040535c00, 0x76095000),
    (0x240040536000, 0x76098000), (0x240040536400, 0x76099000), (0x240040536800, 0x76168000),
    (0x240040536c00, 0x76169000), (0x240040537000, 0x7a100000), (0x240040537400, 0x7a101000),
    (0x240040537800, 0x7bdc0000), (0x240040537c00, 0x7bdc1000), (0x240040538000, 0x99ad0000),
    (0x240040538400, 0x99ad1000), (0x240040538800, 0x99ad2000), (0x240040538c00, 0x99ad3000),
    (0x240040539000, 0x99ad4000), (0x240040539400, 0x99ad5000), (0x240040539800, 0x99ad6000),
    (0x240040539c00, 0x99ad7000), (0x24004053a000, 0x99ad8000), (0x24004053a400, 0x99ad9000),
    (0x24004053a800, 0x99ada000), (0x24004053ac00, 0x99adb000), (0x24004053b000, 0x99adc000),
    (0x24004053b400, 0x99add000), (0x24004053b800, 0x99ade000), (0x24004053bc00, 0x99adf000),
    (0x24004053c000, 0x99ee0000), (0x24004053c400, 0x99ee1000), (0x24004053c800, 0x99ee2000),
    (0x24004053cc00, 0x99ee3000), (0x24004053d000, 0x99ee4000), (0x24004053d400, 0x99ee5000),
    (0x24004053d800, 0x99ee6000), (0x24004053dc00, 0x99ee7000), (0x24004053e000, 0x99ee8000),
    (0x24004053e400, 0x99ee9000), (0x24004053e800, 0x99eea000), (0x24004053ec00, 0x99eeb000),
    (0x24004053f000, 0x99eec000), (0x24004053f400, 0x99eed000), (0x24004053f800, 0x99eee000),
    (0x24004053fc00, 0x99eef000), (0x240041500000, 0x99ef0000), (0x240041500400, 0x99ef1000),
    (0x240041500800, 0x99ef2000), (0x240041500c00, 0x99ef3000), (0x240041501000, 0x99ef4000),
    (0x240041501400, 0x99ef5000), (0x240041501800, 0x99ef6000), (0x240041501c00, 0x99ef7000),
    (0x240041502000, 0x99ef8000), (0x240041502400, 0x99ef9000), (0x240041502800, 0x99efa000),
    (0x240041502c00, 0x99efb000), (0x240041503000, 0x99efc000), (0x240041503400, 0x99efd000),
    (0x240041503800, 0x99efe000), (0x240041503c00, 0x99eff000), (0x240041504000, 0x99fc0000),
    (0x240041504400, 0x99fc1000), (0x240041504800, 0x99fc2000), (0x240041504c00, 0x99fc3000),
    (0x240041505000, 0x99fc4000), (0x240041505400, 0x99fc5000), (0x240041505800, 0x99fc6000),
    (0x240041505c00, 0x99fc7000), (0x240041506000, 0x99fc8000), (0x240041506400, 0x99fc9000),
    (0x240041506800, 0x99fca000), (0x240041506c00, 0x99fcb000), (0x240041507000, 0x99fcc000),
    (0x240041507400, 0x99fcd000), (0x240041507800, 0x99fce000), (0x240041507c00, 0x99fcf000),
    (0x240041508000, 0x7bde6000), (0x240041508400, 0x7bde7000), (0x240041508800, 0x7be16000),
    (0x240041508c00, 0x7be17000), (0x240041509000, 0x7be1a000), (0x240041509400, 0x7be1b000),
    (0x240041509800, 0x7c546000), (0x240041509c00, 0x7c547000), (0x240041510000, 0xb43c0000),
    (0x240041510400, 0xb43c1000), (0x240041510800, 0xb43c2000), (0x240041510c00, 0xb43c3000),
    (0x240041511000, 0xb43c4000), (0x240041511400, 0xb43c5000), (0x240041511800, 0xb43c6000),
    (0x240041511c00, 0xb43c7000), (0x240041512000, 0xb43c8000), (0x240041512400, 0xb43c9000),
    (0x240041512800, 0xb43ca000), (0x240041512c00, 0xb43cb000), (0x240041513000, 0xb43cc000),
    (0x240041513400, 0xb43cd000), (0x240041513800, 0xb43ce000), (0x240041513c00, 0xb43cf000),
    (0x240041514000, 0x998b0000), (0x240041514400, 0x998b1000), (0x240041514800, 0x998b2000),
    (0x240041514c00, 0x998b3000), (0x240041515000, 0x998b4000), (0x240041515400, 0x998b5000),
    (0x240041515800, 0x998b6000), (0x240041515c00, 0x998b7000), (0x240041516000, 0xdba18000),
    (0x240041516400, 0xdba19000), (0x240041516800, 0xdba1a000), (0x240041516c00, 0xdba1b000),
    (0x240041517000, 0xdba1c000), (0x240041517400, 0xdba1d000), (0x240041517800, 0xdba1e000),
    (0x240041517c00, 0xdba1f000), (0x240041518000, 0x99bb0000), (0x240041518400, 0x99bb1000),
    (0x240041518800, 0x99bb2000), (0x240041518c00, 0x99bb3000), (0x240041519000, 0x99bf0000),
    (0x240041519400, 0x99bf1000), (0x240041519800, 0x99bf2000), (0x240041519c00, 0x99bf3000),
    (0x24004151a000, 0xb40c4000), (0x24004151a400, 0xb40c5000), (0x24004151a800, 0xb40c6000),
    (0x24004151ac00, 0xb40c7000), (0x24004151b000, 0xb40d0000), (0x24004151b400, 0xb40d1000),
    (0x24004151b800, 0xb40d2000), (0x24004151bc00, 0xb40d3000), (0x24004151c000, 0x7c548000),
    (0x24004151c400, 0x7c549000), (0x24004151c800, 0x7c62c000), (0x24004151cc00, 0x7c62d000),
    (0x24004151d000, 0x7c640000), (0x24004151d400, 0x7c641000), (0x24004151d800, 0x7c64e000),
    (0x24004151dc00, 0x7c64f000), (0x240041520000, 0xb4100000), (0x240041520400, 0xb4101000),
    (0x240041520800, 0xb4102000), (0x240041520c00, 0xb4103000), (0x240041521000, 0xb41d8000),
    (0x240041521400, 0xb41d9000), (0x240041521800, 0xb41da000), (0x240041521c00, 0xb41db000),
    (0x240041522000, 0xb43b4000), (0x240041522400, 0xb43b5000), (0x240041522800, 0xb43b6000),
    (0x240041522c00, 0xb43b7000), (0x240041523000, 0xdba10000), (0x240041523400, 0xdba11000),
    (0x240041523800, 0xdba12000), (0x240041523c00, 0xdba13000), (0x240041524000, 0x9981a000),
    (0x240041524400, 0x9981b000), (0x240041524800, 0x99820000), (0x240041524c00, 0x99821000),
    (0x240041525000, 0x99836000), (0x240041525400, 0x99837000), (0x240041526000, 0x99838000),
    (0x240041526400, 0x99839000), (0x240041526800, 0x99848000), (0x240041526c00, 0x99849000),
    (0x240041527000, 0x99864000), (0x240041527400, 0x99865000), (0x240041527800, 0x99890000),
    (0x240041527c00, 0x99891000), (0x240041528000, 0x998bc000), (0x240041528400, 0x998bd000),
    (0x240041528800, 0x99972000), (0x240041528c00, 0x99973000), (0x240041529000, 0x999c6000),
    (0x240041529400, 0x999c7000), (0x240041529800, 0x999c8000), (0x240041529c00, 0x999c9000),
    (0x240041530000, 0x99a56000), (0x240041530400, 0x99a57000), (0x240041530800, 0x99a5a000),
    (0x240041530c00, 0x99a5b000), (0x240041531000, 0x99abe000), (0x240041531400, 0x99abf000),
    (0x240041531800, 0x99af0000), (0x240041531c00, 0x99af1000), (0x240041532000, 0x99b50000),
    (0x240041532400, 0x99b51000), (0x240041532800, 0x99b7e000), (0x240041532c00, 0x99b7f000),
    (0x240041533000, 0x99b88000), (0x240041533400, 0x99b89000), (0x240041533800, 0x99bbe000),
    (0x240041533c00, 0x99bbf000), (0x240041534000, 0xdc6a2000), (0x240041534400, 0xdc6a3000),
    (0x240041534800, 0x99bc0000), (0x240041534c00, 0x99bc1000), (0x240041535000, 0x99be8000),
    (0x240041535400, 0x99be9000), (0x240041535800, 0x99bf4000), (0x240041535c00, 0x99bf5000),
    (0x240041536000, 0x99bfc000), (0x240041536400, 0x99bfd000), (0x240041536800, 0x99c26000),
    (0x240041536c00, 0x99c27000), (0x240041537000, 0xdc6a4000), (0x240041537400, 0xdc6a5000),
    (0x240041538000, 0xb40c8000), (0x240041538400, 0xb40c9000), (0x240041538800, 0xb41a6000),
    (0x240041538c00, 0xb41a7000), (0x240041539000, 0xb41aa000), (0x240041539400, 0xb41ab000),
    (0x240041539800, 0xb41ae000), (0x240041539c00, 0xb41af000), (0x24004153a000, 0xb41e0000),
    (0x24004153a400, 0xb41e1000), (0x24004153a800, 0xb41f6000), (0x24004153ac00, 0xb41f7000),
    (0x24004153b000, 0xb4204000), (0x24004153b400, 0xb4205000), (0x24004153b800, 0xb422a000),
    (0x24004153bc00, 0xb422b000), (0x24004153c000, 0xb42e0000), (0x24004153c400, 0xb42e1000),
    (0x24004153c800, 0xb4300000), (0x24004153cc00, 0xb4301000), (0x24004153d000, 0xb432c000),
    (0x24004153d400, 0xb432d000), (0x24004153d800, 0xb4350000), (0x24004153dc00, 0xb4351000),
    (0x24004153e000, 0xdae68000), (0x24004153e400, 0xdae69000), (0x24004153e800, 0xdba14000),
    (0x24004153ec00, 0xdba15000), (0x24004153f000, 0xdc604000), (0x24004153f400, 0xdc605000),
    (0x24004153f800, 0xdc630000), (0x24004153fc00, 0xdc631000)]

/-- The tables in the order in which the first match is looked for. -/
def v6plusMapRules : List MapRule := ruleprefix38 ++ ruleprefix31 ++ ruleprefix38_20

def ruleCount : Nat := 690

theorem length_v6plusMapRules : v6plusMapRules.length = ruleCount := by
  decide +kernel

section Tables

variable {rule : MapRule}

theorem RuleTable.mem_rules {table : RuleTable} {brAddress : Ipv6Addr} {entries : List (Nat × Nat)}
    (h : rule ∈ table.rules brAddress entries) : ∃ entry, rule = table.rule brAddress entry := by
  obtain ⟨entry, -, rfl⟩ := List.mem_map.mp h
  exact ⟨entry, rfl⟩

/-- Each rule comes from the table of its list. -/
theorem mem_ruleprefix38 (h : rule ∈ ruleprefix38) :
    ∃ brAddress entry, rule = table38.rule brAddress entry := by
  rcases List.mem_append.mp h with h | h
  · exact ⟨_, RuleTable.mem_rules h⟩
  · exact ⟨_, RuleTable.mem_rules h⟩

theorem mem_ruleprefix31 (h : rule ∈ ruleprefix31) :
    ∃ brAddress entry, rule = table31.rule brAddress entry := by
  rcases List.mem_append.mp h with h | h
  · rcases List.mem_append.mp h with h | h
    · exact ⟨_, RuleTable.mem_rules h⟩
    · exact ⟨_, RuleTable.mem_rules h⟩
  · exact ⟨_, RuleTable.mem_rules h⟩

theorem mem_ruleprefix38_20 (h : rule ∈ ruleprefix38_20) :
    ∃ brAddress entry, rule = table38_20.rule brAddress entry :=
  ⟨_, RuleTable.mem_rules h⟩

/-- The first hextet separates the last table from the others. -/
theorem ruleprefix38_hextet : ∀ rule ∈ ruleprefix38, rule.ipv6Prefix.addr >>> 112 = 0x2404 := by
  decide +kernel

theorem ruleprefix31_hextet : ∀ rule ∈ ruleprefix31, rule.ipv6Prefix.addr >>> 112 ≠ 0x2400 := by
  decide +kernel

theorem ruleprefix38_20_hextet :
    ∀ rule ∈ ruleprefix38_20, rule.ipv6Prefix.addr >>> 112 = 0x2400 := by
  decide +kernel

end Tables

end Mapecd
