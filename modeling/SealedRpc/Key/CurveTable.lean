import SealedRpc.Key.Curve

/-!
# The curves in use

The curves over prime fields that keys are known to lie on, under the names of their
standards.
-/

namespace SealedRpc.Curve

/-- The curve `secp192r1`. -/
def p192 : Curve where
  identifier := [0x2A, 0x86, 0x48, 0xCE, 0x3D, 0x03, 0x01, 0x01]
  modulus := 0xFFFFFFFFFFFFFFFFFFFFFFFFFFFFFFFEFFFFFFFFFFFFFFFF
  a := 0xFFFFFFFFFFFFFFFFFFFFFFFFFFFFFFFEFFFFFFFFFFFFFFFC
  b := 0x64210519E59C80E70FA7E9AB72243049FEB8DEECC146B9B1
  x := 0x188DA80EB03090F67CBF20EB43A18800F4FF0AFD82FF1012
  y := 0x7192B95FFC8DA78631011ED6B24CDD573F977A11E794811
  order := 0xFFFFFFFFFFFFFFFFFFFFFFFF99DEF836146BC9B1B4D22831

/-- The curve `secp224r1`. -/
def p224 : Curve where
  identifier := [0x2B, 0x81, 0x04, 0x00, 0x21]
  modulus := 0xFFFFFFFFFFFFFFFFFFFFFFFFFFFFFFFF000000000000000000000001
  a := 0xFFFFFFFFFFFFFFFFFFFFFFFFFFFFFFFEFFFFFFFFFFFFFFFFFFFFFFFE
  b := 0xB4050A850C04B3ABF54132565044B0B7D7BFD8BA270B39432355FFB4
  x := 0xB70E0CBD6BB4BF7F321390B94A03C1D356C21122343280D6115C1D21
  y := 0xBD376388B5F723FB4C22DFE6CD4375A05A07476444D5819985007E34
  order := 0xFFFFFFFFFFFFFFFFFFFFFFFFFFFF16A2E0B8F03E13DD29455C5C2A3D

/-- The curve `secp256r1`. -/
def p256 : Curve where
  identifier := [0x2A, 0x86, 0x48, 0xCE, 0x3D, 0x03, 0x01, 0x07]
  modulus := 0xFFFFFFFF00000001000000000000000000000000FFFFFFFFFFFFFFFFFFFFFFFF
  a := 0xFFFFFFFF00000001000000000000000000000000FFFFFFFFFFFFFFFFFFFFFFFC
  b := 0x5AC635D8AA3A93E7B3EBBD55769886BC651D06B0CC53B0F63BCE3C3E27D2604B
  x := 0x6B17D1F2E12C4247F8BCE6E563A440F277037D812DEB33A0F4A13945D898C296
  y := 0x4FE342E2FE1A7F9B8EE7EB4A7C0F9E162BCE33576B315ECECBB6406837BF51F5
  order := 0xFFFFFFFF00000000FFFFFFFFFFFFFFFFBCE6FAADA7179E84F3B9CAC2FC632551

/-- The curve `secp384r1`. -/
def p384 : Curve where
  identifier := [0x2B, 0x81, 0x04, 0x00, 0x22]
  modulus :=
    2 ^ 256 * 0xFFFFFFFFFFFFFFFFFFFFFFFFFFFFFFFF +
    0xFFFFFFFFFFFFFFFFFFFFFFFFFFFFFFFEFFFFFFFF0000000000000000FFFFFFFF
  a :=
    2 ^ 256 * 0xFFFFFFFFFFFFFFFFFFFFFFFFFFFFFFFF +
    0xFFFFFFFFFFFFFFFFFFFFFFFFFFFFFFFEFFFFFFFF0000000000000000FFFFFFFC
  b :=
    2 ^ 256 * 0xB3312FA7E23EE7E4988E056BE3F82D19 +
    0x181D9C6EFE8141120314088F5013875AC656398D8A2ED19D2A85C8EDD3EC2AEF
  x :=
    2 ^ 256 * 0xAA87CA22BE8B05378EB1C71EF320AD74 +
    0x6E1D3B628BA79B9859F741E082542A385502F25DBF55296C3A545E3872760AB7
  y :=
    2 ^ 256 * 0x3617DE4A96262C6F5D9E98BF9292DC29 +
    0xF8F41DBD289A147CE9DA3113B5F0B8C00A60B1CE1D7E819D7A431D7C90EA0E5F
  order :=
    2 ^ 256 * 0xFFFFFFFFFFFFFFFFFFFFFFFFFFFFFFFF +
    0xFFFFFFFFFFFFFFFFC7634D81F4372DDF581A0DB248B0A77AECEC196ACCC52973

/-- The curve `secp521r1`. -/
def p521 : Curve where
  identifier := [0x2B, 0x81, 0x04, 0x00, 0x23]
  modulus :=
    2 ^ 512 * 0x1FF +
    2 ^ 256 * 0xFFFFFFFFFFFFFFFFFFFFFFFFFFFFFFFFFFFFFFFFFFFFFFFFFFFFFFFFFFFFFFFF +
    0xFFFFFFFFFFFFFFFFFFFFFFFFFFFFFFFFFFFFFFFFFFFFFFFFFFFFFFFFFFFFFFFF
  a :=
    2 ^ 512 * 0x1FF +
    2 ^ 256 * 0xFFFFFFFFFFFFFFFFFFFFFFFFFFFFFFFFFFFFFFFFFFFFFFFFFFFFFFFFFFFFFFFF +
    0xFFFFFFFFFFFFFFFFFFFFFFFFFFFFFFFFFFFFFFFFFFFFFFFFFFFFFFFFFFFFFFFC
  b :=
    2 ^ 512 * 0x51 +
    2 ^ 256 * 0x953EB9618E1C9A1F929A21A0B68540EEA2DA725B99B315F3B8B489918EF109E1 +
    0x56193951EC7E937B1652C0BD3BB1BF073573DF883D2C34F1EF451FD46B503F00
  x :=
    2 ^ 512 * 0xC6 +
    2 ^ 256 * 0x858E06B70404E9CD9E3ECB662395B4429C648139053FB521F828AF606B4D3DBA +
    0xA14B5E77EFE75928FE1DC127A2FFA8DE3348B3C1856A429BF97E7E31C2E5BD66
  y :=
    2 ^ 512 * 0x118 +
    2 ^ 256 * 0x39296A789A3BC0045C8A5FB42C7D1BD998F54449579B446817AFBD17273E662C +
    0x97EE72995EF42640C550B9013FAD0761353C7086A272C24088BE94769FD16650
  order :=
    2 ^ 512 * 0x1FF +
    2 ^ 256 * 0xFFFFFFFFFFFFFFFFFFFFFFFFFFFFFFFFFFFFFFFFFFFFFFFFFFFFFFFFFFFFFFFA +
    0x51868783BF2F966B7FCC0148F709A5D03BB5C9B8899C47AEBB6FB71E91386409

/-- The curve `secp256k1`. -/
def k256 : Curve where
  identifier := [0x2B, 0x81, 0x04, 0x00, 0x0A]
  modulus := 0xFFFFFFFFFFFFFFFFFFFFFFFFFFFFFFFFFFFFFFFFFFFFFFFFFFFFFFFEFFFFFC2F
  a := 0x0
  b := 0x7
  x := 0x79BE667EF9DCBBAC55A06295CE870B07029BFCDB2DCE28D959F2815B16F81798
  y := 0x483ADA7726A3C4655DA4FBFC0E1108A8FD17B448A68554199C47D08FFB10D4B8
  order := 0xFFFFFFFFFFFFFFFFFFFFFFFFFFFFFFFEBAAEDCE6AF48A03BBFD25E8CD0364141

/-- The curve `brainpoolP256r1`. -/
def r256 : Curve where
  identifier := [0x2B, 0x24, 0x03, 0x03, 0x02, 0x08, 0x01, 0x01, 0x07]
  modulus := 0xA9FB57DBA1EEA9BC3E660A909D838D726E3BF623D52620282013481D1F6E5377
  a := 0x7D5A0975FC2C3057EEF67530417AFFE7FB8055C126DC5C6CE94A4B44F330B5D9
  b := 0x26DC5C6CE94A4B44F330B5D9BBD77CBF958416295CF7E1CE6BCCDC18FF8C07B6
  x := 0x8BD2AEB9CB7E57CB2C4B482FFC81B7AFB9DE27E1E3BD23C23A4453BD9ACE3262
  y := 0x547EF835C3DAC4FD97F8461A14611DC9C27745132DED8E545C1D54C72F046997
  order := 0xA9FB57DBA1EEA9BC3E660A909D838D718C397AA3B561A6F7901E0E82974856A7

/-- The curve `brainpoolP384r1`. -/
def r384 : Curve where
  identifier := [0x2B, 0x24, 0x03, 0x03, 0x02, 0x08, 0x01, 0x01, 0x0B]
  modulus :=
    2 ^ 256 * 0x8CB91E82A3386D280F5D6F7E50E641DF +
    0x152F7109ED5456B412B1DA197FB71123ACD3A729901D1A71874700133107EC53
  a :=
    2 ^ 256 * 0x7BC382C63D8C150C3C72080ACE05AFA0 +
    0xC2BEA28E4FB22787139165EFBA91F90F8AA5814A503AD4EB04A8C7DD22CE2826
  b :=
    2 ^ 256 * 0x4A8C7DD22CE28268B39B55416F0447C +
    0x2FB77DE107DCD2A62E880EA53EEB62D57CB4390295DBC9943AB78696FA504C11
  x :=
    2 ^ 256 * 0x1D1C64F068CF45FFA2A63A81B7C13F6B +
    0x8847A3E77EF14FE3DB7FCAFE0CBD10E8E826E03436D646AAEF87B2E247D4AF1E
  y :=
    2 ^ 256 * 0x8ABE1D7520F9C2A45CB1EB8E95CFD552 +
    0x62B70B29FEEC5864E19C054FF99129280E4646217791811142820341263C5315
  order :=
    2 ^ 256 * 0x8CB91E82A3386D280F5D6F7E50E641DF +
    0x152F7109ED5456B31F166E6CAC0425A7CF3AB6AF6B7FC3103B883202E9046565

/-- The curve `brainpoolP512r1`. -/
def r512 : Curve where
  identifier := [0x2B, 0x24, 0x03, 0x03, 0x02, 0x08, 0x01, 0x01, 0x0D]
  modulus :=
    2 ^ 256 * 0xAADD9DB8DBE9C48B3FD4E6AE33C9FC07CB308DB3B3C9D20ED6639CCA70330871 +
    0x7D4D9B009BC66842AECDA12AE6A380E62881FF2F2D82C68528AA6056583A48F3
  a :=
    2 ^ 256 * 0x7830A3318B603B89E2327145AC234CC594CBDD8D3DF91610A83441CAEA9863BC +
    0x2DED5D5AA8253AA10A2EF1C98B9AC8B57F1117A72BF2C7B9E7C1AC4D77FC94CA
  b :=
    2 ^ 256 * 0x3DF91610A83441CAEA9863BC2DED5D5AA8253AA10A2EF1C98B9AC8B57F1117A7 +
    0x2BF2C7B9E7C1AC4D77FC94CADC083E67984050B75EBAE5DD2809BD638016F723
  x :=
    2 ^ 256 * 0x81AEE4BDD82ED9645A21322E9C4C6A9385ED9F70B5D916C1B43B62EEF4D0098E +
    0xFF3B1F78E2D0D48D50D1687B93B97D5F7C6D5047406A5E688B352209BCB9F822
  y :=
    2 ^ 256 * 0x7DDE385D566332ECC0EABFA9CF7822FDF209F70024A57B1AA000C55B881F8111 +
    0xB2DCDE494A5F485E5BCA4BD88A2763AED1CA2B2FA8F0540678CD1E0F3AD80892
  order :=
    2 ^ 256 * 0xAADD9DB8DBE9C48B3FD4E6AE33C9FC07CB308DB3B3C9D20ED6639CCA70330870 +
    0x553E5C414CA92619418661197FAC10471DB1D381085DDADDB58796829CA90069

/-- The curves in use. -/
def all : List Curve := [p192, p224, p256, p384, p521, k256, r256, r384, r512]

/-- The curves that may be given by their numbers in place of their names. -/
def spelledOut : List Curve := [p256, p384, p521]

end SealedRpc.Curve
